import LorawanRouting.KeyValue.Storage
import LorawanRouting.Proofs.FieldMaps

/-!
What lies in a backend, whichever it is: under each key the texts of a record and a set of members.
A lawful backend answers from its contents and applies every batch to them.
-/

namespace LorawanRouting
open OrderedMaps (Ascending)

structure Contents where
  record : String → FieldMap
  members : String → Std.ExtTreeSet String

namespace Contents

def empty : Contents := ⟨fun _ => ∅, fun _ => ∅⟩

def write (c : Contents) : Write → Contents
  | .putFields key fields =>
    { c with record := Function.update c.record key ((c.record key).overlay fields) }
  | .remove key => ⟨Function.update c.record key ∅, Function.update c.members key ∅⟩
  | .addMember key member =>
    { c with members := Function.update c.members key ((c.members key).insert member) }
  | .removeMember key member =>
    { c with members := Function.update c.members key ((c.members key).erase member) }

end Contents

class LawfulBackend (σ : Type) [Backend σ] where
  Holds : σ → Contents → Prop
  fields : ∀ {s c}, Holds s c → ∀ key, Backend.fields s key = .ok (c.record key)
  field : ∀ {s c}, Holds s c → ∀ key name, Backend.field s key name = .ok (c.record key)[name]?
  members : ∀ {s c}, Holds s c → ∀ key, Backend.members s key = .ok (c.members key).toList
  apply : ∀ {s c}, Holds s c → ∀ writes : List Write,
    (Backend.apply s writes).answer = .ok () ∧
      Holds (Backend.apply s writes).state (writes.foldl Contents.write c)

namespace MemoryBackend

def contents (kv : MemoryBackend) : Contents := ⟨kv.fields, kv.members⟩

theorem contents_empty : empty.contents = .empty := by
  refine congrArg₂ Contents.mk ?_ ?_
  · funext key
    simp [fields, empty]
  · funext key
    simp [members, empty]

theorem contents_write (kv : MemoryBackend) (w : Write) :
    (kv.write w).contents = kv.contents.write w := by
  cases w with
  | putFields key m =>
    exact congrArg (Contents.mk · kv.members) (OrderedMaps.getD_insert kv.records key _ ∅)
  | remove key =>
    exact congrArg₂ Contents.mk (OrderedMaps.getD_erase kv.records key ∅)
      (OrderedMaps.getD_erase kv.sets key ∅)
  | addMember key member =>
    exact congrArg (Contents.mk kv.fields) (OrderedMaps.getD_insert kv.sets key _ ∅)
  | removeMember key member =>
    refine congrArg (Contents.mk kv.fields) ?_
    simp only [write, removeMember]
    split
    case isTrue hempty =>
      have hleft := Std.ExtTreeSet.isEmpty_iff.mp hempty
      exact (OrderedMaps.getD_erase kv.sets key ∅).trans
        (congrArg (Function.update kv.members key) hleft.symm)
    case isFalse => exact OrderedMaps.getD_insert kv.sets key _ ∅

theorem contents_foldl_write (kv : MemoryBackend) (writes : List Write) :
    (writes.foldl write kv).contents = writes.foldl Contents.write kv.contents := by
  induction writes generalizing kv with
  | nil => rfl
  | cons w writes ih => rw [List.foldl_cons, List.foldl_cons, ih, contents_write]

instance : LawfulBackend MemoryBackend where
  Holds kv c := kv.contents = c
  fields := by
    intro kv c h key
    rw [← h]
    rfl
  field := by
    intro kv c h key name
    rw [← h]
    rfl
  members := by
    intro kv c h key
    rw [← h]
    rfl
  apply := by
    intro kv c h writes
    rw [← h]
    exact ⟨rfl, contents_foldl_write kv writes⟩

end MemoryBackend

namespace Database

variable {rows : Std.ExtTreeMap RowKey String} {members : Std.ExtTreeSet RowKey} {c : Contents}

structure Rows (rows : Std.ExtTreeMap RowKey String) (members : Std.ExtTreeSet RowKey)
    (c : Contents) : Prop where
  record : ∀ key name, (c.record key)[name]? = rows[(⟨key, name⟩ : RowKey)]?
  listed : ∀ key member, member ∈ c.members key ↔ (⟨key, member⟩ : RowKey) ∈ members

theorem rows_empty : Rows ∅ ∅ .empty := by
  constructor
  · simp [Contents.empty]
  · simp [Contents.empty]

theorem compare_of_key_eq {x y : RowKey} (h : x.key = y.key) :
    compare x y = compare x.column y.column := by
  have hself : compare y.key y.key = .eq := Std.ReflCmp.compare_self
  change (compare x.key y.key).then (compare x.column y.column) = compare x.column y.column
  rw [h, hself]
  rfl

theorem ascending_column {γ : Type} {row : γ → RowKey} {l : List γ} (hl : Ascending row l)
    (key : String) :
    Ascending (fun r => (row r).column) (l.filter fun r => (row r).key = key) := by
  refine (List.Pairwise.filter _ hl).imp_of_mem ?_
  intro x y hx hy hlt
  have hxkey := of_decide_eq_true (List.mem_filter.mp hx).2
  have hykey := of_decide_eq_true (List.mem_filter.mp hy).2
  rw [compare_of_key_eq (hxkey.trans hykey.symm)] at hlt
  exact hlt

theorem getElem?_selectFields (rows : Std.ExtTreeMap RowKey String) (key name : String) :
    ((rows.toList.filter fun r => r.1.key = key).foldl (fun m r => m.insert r.1.column r.2)
      (∅ : FieldMap))[name]? = rows[(⟨key, name⟩ : RowKey)]? := by
  refine Option.ext fun v => ?_
  -- Under one key no column comes twice, so that no insertion hides another.
  have hcolumns := (ascending_column (OrderedMaps.ascending_toList rows) key).nodup_map
  have hnodup : (((rows.toList.filter fun r => r.1.key = key).map
      fun r => (r.1.column, r.2)).map Prod.fst).Nodup := by
    rw [List.map_map]
    exact hcolumns
  have hmem : ∀ w, (name, w) ∈ (rows.toList.filter fun r => r.1.key = key).map
      (fun r => (r.1.column, r.2)) ↔ rows[(⟨key, name⟩ : RowKey)]? = some w := by
    intro w
    rw [← Std.ExtTreeMap.mem_toList_iff_getElem?_eq_some]
    simp only [List.mem_map, List.mem_filter, decide_eq_true_eq, Prod.mk.injEq]
    constructor
    · rintro ⟨⟨⟨k, n⟩, t⟩, ⟨hmem, rfl⟩, rfl, rfl⟩
      exact hmem
    · intro hmem
      exact ⟨_, ⟨hmem, rfl⟩, rfl, rfl⟩
  have hfold := OrderedMaps.getElem?_foldl_insert hnodup ∅ name v
  rw [List.foldl_map, hmem] at hfold
  rw [hfold]
  simp

theorem selectFields_rows (h : Rows rows members c) (key : String) :
    selectFields ⟨some rows, some members⟩ key = some (c.record key) := by
  refine congrArg some (Std.ExtTreeMap.ext_getElem? fun name => ?_)
  rw [getElem?_selectFields, h.record]

theorem selectMembers_rows (h : Rows rows members c) (key : String) :
    selectMembers ⟨some rows, some members⟩ key = some (c.members key).toList := by
  refine congrArg some ?_
  have hcolumns := ascending_column (OrderedMaps.ascending_set_toList members) key
  have hlisted : Ascending (fun x => x) ((members.toList.filter fun r => r.key = key).map
      RowKey.column) := List.pairwise_map.mpr hcolumns
  refine hlisted.eq_of_mem_iff (OrderedMaps.ascending_set_toList (c.members key)) fun m => ?_
  rw [Std.ExtTreeSet.mem_toList, h.listed, List.mem_map]
  constructor
  · rintro ⟨r, hr, rfl⟩
    obtain ⟨hmem, hkey⟩ := List.mem_filter.mp hr
    obtain rfl := of_decide_eq_true hkey
    exact Std.ExtTreeSet.mem_toList.mp hmem
  · intro hm
    refine ⟨⟨key, m⟩, List.mem_filter.mpr ⟨Std.ExtTreeSet.mem_toList.mpr hm, ?_⟩, rfl⟩
    exact decide_eq_true rfl

theorem exists_rows (rows : Std.ExtTreeMap RowKey String) (members : Std.ExtTreeSet RowKey) :
    ∃ c, Rows rows members c := by
  refine ⟨⟨fun key => (rows.toList.filter fun r => r.1.key = key).foldl
    (fun m r => m.insert r.1.column r.2) ∅, fun key => .ofList
      ((members.toList.filter fun r => r.key = key).map RowKey.column)⟩,
    getElem?_selectFields rows, fun key member => ?_⟩
  rw [Std.ExtTreeSet.mem_ofList, List.contains_iff_mem, List.mem_map]
  constructor
  · rintro ⟨r, hr, rfl⟩
    obtain ⟨hmem, hkey⟩ := List.mem_filter.mp hr
    obtain rfl := of_decide_eq_true hkey
    exact Std.ExtTreeSet.mem_toList.mp hmem
  · intro hmem
    refine ⟨⟨key, member⟩, List.mem_filter.mpr ⟨Std.ExtTreeSet.mem_toList.mpr hmem, ?_⟩, rfl⟩
    exact decide_eq_true rfl

theorem getElem?_upsert (rows : Std.ExtTreeMap RowKey String) (key : String) (m : FieldMap)
    (r : RowKey) :
    (m.toList.foldl (fun rs f => rs.insert ⟨key, f.1⟩ f.2) rows)[r]? =
      if r.key = key then m[r.column]?.or rows[r]? else rows[r]? := by
  apply Option.ext
  intro v
  have hnodup : ((m.toList.map fun f => ((⟨key, f.1⟩ : RowKey), f.2)).map Prod.fst).Nodup := by
    have hinj : Function.Injective (RowKey.mk key) := fun a b h => congrArg RowKey.column h
    rw [List.map_map]
    exact List.pairwise_map.mpr ((List.pairwise_map.mp
      (OrderedMaps.ascending_toList m).nodup_map).imp fun h => hinj.ne h)
  have hmem : ∀ w, (r, w) ∈ m.toList.map (fun f => ((⟨key, f.1⟩ : RowKey), f.2)) ↔
      r.key = key ∧ m[r.column]? = some w := by
    intro w
    rw [← Std.ExtTreeMap.mem_toList_iff_getElem?_eq_some]
    constructor
    · intro h
      obtain ⟨⟨n, t⟩, hf, heq⟩ := List.mem_map.mp h
      obtain ⟨rfl, rfl⟩ := Prod.mk.inj heq
      exact ⟨rfl, hf⟩
    · intro h
      obtain ⟨hkey, hf⟩ := h
      subst hkey
      exact List.mem_map.mpr ⟨_, hf, rfl⟩
  have hfold := OrderedMaps.getElem?_foldl_insert hnodup rows r v
  rw [List.foldl_map] at hfold
  rw [hfold]
  simp only [hmem]
  by_cases hkey : r.key = key
  · cases m[r.column]? <;> simp [hkey]
  · simp [hkey]

theorem Rows.upsert (h : Rows rows members c) (key : String) (m : FieldMap) :
    ∃ rows', (∀ sets, upsert ⟨some rows, sets⟩ key m = some ⟨some rows', sets⟩) ∧
      Rows rows' members (c.write (.putFields key m)) := by
  refine ⟨m.toList.foldl (fun rs f => rs.insert ⟨key, f.1⟩ f.2) rows, fun sets => ?_, ?_, h.listed⟩
  · rw [Database.upsert]
    split
    case isTrue hempty =>
      rw [List.isEmpty_iff.mp (Std.ExtTreeMap.isEmpty_toList.trans hempty)]
      rfl
    case isFalse => rfl
  · intro k name
    rw [getElem?_upsert, Contents.write]
    by_cases hk : k = key
    · subst hk
      simp [FieldMap.getElem?_overlay, h.record]
    · simp [hk, h.record]

theorem Rows.delete (h : Rows rows members c) (key : String) :
    ∃ rows' members', delete ⟨some rows, some members⟩ key = some ⟨some rows', some members'⟩ ∧
      Rows rows' members' (c.write (.remove key)) := by
  refine ⟨_, _, rfl, ?_, ?_⟩
  · intro k name
    rw [Std.ExtTreeMap.getElem?_filter', Contents.write]
    by_cases hk : k = key
    · simp [hk]
    · simp only [Function.update_of_ne hk, h.record]
      cases rows[(⟨k, name⟩ : RowKey)]? <;> simp [hk, Option.filter]
  · intro k member
    rw [Std.ExtTreeSet.mem_filter, Contents.write]
    by_cases hk : k = key
    · simp [hk, Std.ExtTreeSet.get_eq]
    · simp [hk, h.listed, Std.ExtTreeSet.get_eq]

theorem Rows.insertMember (h : Rows rows members c) (key member : String) :
    Rows rows (members.insert ⟨key, member⟩) (c.write (.addMember key member)) := by
  refine ⟨h.record, fun k m => ?_⟩
  rw [Std.ExtTreeSet.mem_insert, Contents.write]
  by_cases hk : k = key
  · subst hk
    simp [Std.ExtTreeSet.mem_insert, h.listed]
  · simp [hk, h.listed, Ne.symm hk]

theorem Rows.deleteMember (h : Rows rows members c) (key member : String) :
    Rows rows (members.erase ⟨key, member⟩) (c.write (.removeMember key member)) := by
  refine ⟨h.record, fun k m => ?_⟩
  rw [Std.ExtTreeSet.mem_erase, Contents.write]
  by_cases hk : k = key
  · subst hk
    simp [Std.ExtTreeSet.mem_erase, h.listed]
  · simp [hk, h.listed, Ne.symm hk]

def Shows (db : Database) (c : Contents) : Prop :=
  ∃ rows members, db = ⟨some rows, some members⟩ ∧ Rows rows members c

theorem Shows.write {db : Database} (h : Shows db c) (w : Write) :
    ∃ db', db.write w = some db' ∧ Shows db' (c.write w) := by
  obtain ⟨rows, members, rfl, h⟩ := h
  cases w with
  | putFields key m =>
    obtain ⟨rows', hwrite, h'⟩ := h.upsert key m
    exact ⟨_, hwrite _, rows', members, rfl, h'⟩
  | remove key =>
    obtain ⟨rows', members', hwrite, h'⟩ := h.delete key
    exact ⟨_, hwrite, rows', members', rfl, h'⟩
  | addMember key member => exact ⟨_, rfl, _, _, rfl, h.insertMember key member⟩
  | removeMember key member => exact ⟨_, rfl, _, _, rfl, h.deleteMember key member⟩

theorem Shows.foldlM_write {db : Database} (h : Shows db c) (writes : List Write) :
    ∃ db', writes.foldlM Database.write db = some db' ∧ Shows db' (writes.foldl Contents.write c) := by
  induction writes generalizing db c with
  | nil => exact ⟨db, rfl, h⟩
  | cons w writes ih =>
    obtain ⟨db₁, hwrite, h₁⟩ := h.write w
    obtain ⟨db₂, hrest, h₂⟩ := ih h₁
    refine ⟨db₂, ?_, h₂⟩
    rw [List.foldlM_cons, hwrite]
    exact hrest

instance : LawfulBackend Database where
  Holds := Shows
  fields := by
    rintro _ c ⟨rows, members, rfl, h⟩ key
    exact congrArg answer (selectFields_rows h key)
  field := by
    rintro _ c ⟨rows, members, rfl, h⟩ key name
    rw [h.record]
    rfl
  members := by
    rintro _ c ⟨rows, members, rfl, h⟩ key
    exact congrArg answer (selectMembers_rows h key)
  apply := by
    intro db c h writes
    obtain ⟨db', hwrites, h'⟩ := Shows.foldlM_write h writes
    simp only [Backend.apply, hwrites]
    exact ⟨rfl, h'⟩

theorem holds_empty : LawfulBackend.Holds Database.empty .empty := ⟨∅, ∅, rfl, rows_empty⟩

end Database

namespace Storage

instance : LawfulBackend Storage where
  Holds s c :=
    match s with
    | .memory kv => LawfulBackend.Holds kv c
    | .database db => LawfulBackend.Holds db c
  fields := by
    intro s c h key
    cases s with
    | memory kv => exact LawfulBackend.fields (σ := MemoryBackend) h key
    | database db => exact LawfulBackend.fields (σ := Database) h key
  field := by
    intro s c h key name
    cases s with
    | memory kv => exact LawfulBackend.field (σ := MemoryBackend) h key name
    | database db => exact LawfulBackend.field (σ := Database) h key name
  members := by
    intro s c h key
    cases s with
    | memory kv => exact LawfulBackend.members (σ := MemoryBackend) h key
    | database db => exact LawfulBackend.members (σ := Database) h key
  apply := by
    intro s c h writes
    cases s with
    | memory kv => exact LawfulBackend.apply (σ := MemoryBackend) h writes
    | database db => exact LawfulBackend.apply (σ := Database) h writes

end Storage

end LorawanRouting
