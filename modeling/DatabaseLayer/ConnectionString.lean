import DatabaseLayer.MySQLClient

/-! The parsing loop of CppMySQLDB::connect(const char*), over iterators into the
string. Dereferencing or moving past the end has no answer. -/
namespace DatabaseLayer.ConnectionString
open Platform MySQLClient

/-- `std::map<string, string>`; `operator[]` reads an absent key as the empty string. -/
abbrev Options := CString → Option CString

def Options.set (o : Options) (key value : CString) : Options := Function.update o key (some value)
def Options.get (o : Options) (key : String) : CString := (o (text key)).getD default

def defaults : Options :=
  let o : Options := fun _ => none
  let o := o.set (text "host") (text "127.0.0.1")
  let o := o.set (text "port") (text "3306")
  let o := o.set (text "user") (text "")
  let o := o.set (text "password") (text "")
  let o := o.set (text "db") (text "")
  let o := o.set (text "compress") (text "")
  let o := o.set (text "auto-reconnect") (text "")
  o.set (text "default-character-set") (text "")

/-- `std::find(first, last, c)` -/
def find (s : List UInt8) (first last : Nat) (c : UInt8) : Nat :=
  first + ((s.drop first).take (last - first)).findIdx (· == c)

/-- `while ((from != to) && isspace(*from)) from++;` with `to` n places ahead. -/
def skipLeading (s : List UInt8) (start : Nat) : Nat → Nat
  | 0 => start
  | n + 1 => match s[start]? with
    | some b => if isspace (signedChar b) then skipLeading s (start + 1) n else start
    | none => start

/-- `while ((from != to) && isspace(*(to - 1))) to--;` with `to` n places ahead. -/
def skipTrailing (s : List UInt8) (start : Nat) : Nat → Nat
  | 0 => start
  | n + 1 => match s[start + n]? with
    | some b => if isspace (signedChar b) then skipTrailing s start n else start + n + 1
    | none => start + n + 1

/-- Both loops, on a range of the string only. -/
def copyStripped (s : List UInt8) (first last : Nat) : Option CString :=
  if first ≤ last ∧ last ≤ s.length then
    let first := skipLeading s first (last - first)
    let last := skipTrailing s first (last - first)
    some (.ofBytes ((s.drop first).take (last - first)))
  else none

def badFormat : Stop := .thrown (exception CPPMYSQL_DB_ERROR
  (some (text "create session: bad connection string format, can not find '='")))

/-- The loop has no condition of its own; every round but the last one moves `start`
past a separator, so the length of the string bounds the rounds. -/
def parseFrom (s : List UInt8) : Nat → Nat → Options → Except Stop Options
  | 0,_,_ => .error .undefined
  | fuel + 1,start,options =>
    -- 59 is the semicolon, 61 the equals sign
    let finish := find s start s.length 59
    let middle := find s start finish 61
    if middle = finish then .error badFormat
    else match copyStripped s start middle,copyStripped s (middle + 1) finish with
      | some key,some value =>
        let options := options.set key value
        if finish = s.length then .ok options
        else if finish < s.length then parseFrom s fuel (finish + 1) options
        else .error .undefined
      | _,_ => .error .undefined

def parse (szConnectionString : CString) : Except Stop Options :=
  parseFrom szConnectionString.bytes (szConnectionString.strlen + 1) 0 defaults

end DatabaseLayer.ConnectionString
