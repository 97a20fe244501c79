import LorawanRouting.Application.Store
import Std.Data.ExtTreeMap

/-!
Applications in memory.
-/

namespace LorawanRouting

structure ApplicationTable where
  rows : Std.ExtTreeMap AppEui Application

namespace ApplicationTable

def empty : ApplicationTable := ⟨∅⟩

def delete (t : ApplicationTable) (app : AppEui) : Reply ApplicationTable StoreError Unit :=
  if t.rows.contains app then ⟨.ok (), ⟨t.rows.erase app⟩⟩ else ⟨.error .notFound, t⟩

instance : ApplicationStore ApplicationTable where
  get t app :=
    match t.rows[app]? with
    | some a => .ok a
    | none => .error .notFound
  set t a := ⟨.ok (), ⟨t.rows.insert a.app a⟩⟩
  delete := delete

end ApplicationTable

end LorawanRouting
