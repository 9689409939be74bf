import DatabaseLayer.Foundation.Run
import DatabaseLayer.MySQLRules

/-! tableExists of one object among many. The selected database belongs to a connection,
the schema name it asks about is one static of the file, written by whichever object
opened a database by name last. -/
namespace DatabaseLayer.MySQLSchema
open Platform MySQLClient Foundation.Program Foundation.Run MySQLRules CppMySQLDB ConnectionString

/-- The calls that select a database. -/
inductive Selection where
  | connect (host user passwd : CString) (db : Option CString) (port clientFlag : Nat)
  | connectString (szConnectionString : CString)
  | openDB (szDBName : CString)
  deriving DecidableEq, Repr

def Selection.perform (client : Client) : Selection → Op CppMySQLDB Unit
  | .connect host user passwd db port flag => CppMySQLDB.connect client host user passwd db port flag
  | .connectString sz => CppMySQLDB.connectString client sz
  | .openDB szDBName => CppMySQLDB.openDB client szDBName

/-- The database the call selects on its connection when it succeeds. -/
def Selection.database : Selection → Option CString
  | .connect _ _ _ db _ _ => db
  | .connectString sz => match parse sz with
    | .ok options => if options.get "db" ≠ text "" then some (options.get "db") else none
    | .error _ => none
  | .openDB szDBName => some szDBName

/-- The name it leaves for tableExists; connect with separate arguments leaves none. -/
def Selection.name : Selection → Option CString
  | .connect _ _ _ _ _ _ => none
  | .connectString sz => match parse sz with
    | .ok options => some (options.get "db")
    | .error _ => none
  | .openDB szDBName => some szDBName

/-- Objects over one client library, with what the successful calls so far selected. -/
structure Session where
  pool : Pool World CppMySQLDB
  lastName : CString
  selected : Nat → Option CString

section Effect
variable {client : Client}

end Effect

section Runs
variable (client : Client)

def step (s : Session) (e : Nat × Selection) : Session :=
  let r := e.2.perform client (s.pool.scope e.1)
  ⟨s.pool.put e.1 (left r),
    if returned r then e.2.name.getD s.lastName else s.lastName,
    if returned r then Function.update s.selected e.1 e.2.database else s.selected⟩

def Session.start (pool : Pool World CppMySQLDB) : Session := ⟨pool,default,fun _ => none⟩

/-- The client library and the static agree with what the calls selected. -/
structure Follows (s : Session) : Prop where
  handled : ∀ k, (s.pool.objects k).mpDB ≠ none
  apart : ∀ j k, (s.pool.objects j).mpDB = (s.pool.objects k).mpDB → j = k
  databases : ∀ k, selectedDb (s.pool.objects k).mpDB s.pool.world.log = s.selected k
  named : s.pool.world.sDBName = s.lastName

/-- The statements sent to any server, newest first. -/
def statements (h : History) : List CString :=
  h.filterMap (fun e => match e.call with | .realQuery sql => some sql | _ => none)

end Runs

end DatabaseLayer.MySQLSchema
