import LorawanRouting.Directory
import LorawanRouting.Proofs.AddressRange
import LorawanRouting.Proofs.OrderedMaps
import LorawanRouting.Proofs.Runs

/-!
What a directory holds after any announcements and withdrawals: under each identity the announcement
made last, unless it was withdrawn since, and in its lists each of them once.
-/

namespace LorawanRouting

inductive DirectoryCall
  | announce (a : Announcement)
  | remove (id : String)

def DirectoryCall.id : DirectoryCall → String
  | .announce a => a.id
  | .remove id => id

def DirectoryCall.run (d : Directory) : DirectoryCall → Option Announcement × Directory
  | .announce a => (none, d.announce a)
  | .remove id => d.remove id

theorem Announcement.handles_iff (a : Announcement) (address : DevAddr) :
    a.handles address = true ↔ ∃ range ∈ a.ranges, ∀ i < range.length,
      AddressRange.bit range.address i = AddressRange.bit address i := by
  simp only [handles, List.any_eq_true, AddressRange.contains_iff]

namespace Directory
open OrderedMaps

def after (cs : List DirectoryCall) : Directory := (Runs.run DirectoryCall.run .empty cs).2

/-- What is announced under an identity, told from the calls, the latest first. -/
def announced? (id : String) : List DirectoryCall → Option Announcement
  | [] => none
  | .announce a :: past => if a.id = id then some a else announced? id past
  | .remove i :: past => if i = id then none else announced? id past

def Responsible (cs : List DirectoryCall) (address : DevAddr) (a : Announcement) : Prop :=
  announced? a.id cs.reverse = some a ∧ ∃ range ∈ a.ranges, ∀ i < range.length,
    AddressRange.bit range.address i = AddressRange.bit address i

theorem id_of_announced? {id : String} {past : List DirectoryCall} {a : Announcement}
    (h : announced? id past = some a) : a.id = id := by
  induction past with
  | nil => cases h
  | cons c past ih =>
    cases c with
    | announce b =>
      simp only [announced?] at h
      split at h
      case isTrue hid => exact Option.some.inj h ▸ hid
      case isFalse => exact ih h
    | remove i =>
      simp only [announced?] at h
      split at h
      · cases h
      · exact ih h

theorem getElem?_entries_after (cs : List DirectoryCall) (id : String) :
    (after cs).entries[id]? = announced? id cs.reverse := by
  induction cs using List.reverseRecOn with
  | nil => simp [after, Runs.run, empty, announced?]
  | append_singleton cs c ih =>
    rw [after, Runs.run_concat, List.reverse_append]
    cases c with
    | announce a =>
      change ((after cs).entries.insert a.id a)[id]? = _
      rw [Std.ExtTreeMap.getElem?_insert, ih]
      simp [announced?]
    | remove i =>
      change ((after cs).entries.erase i)[id]? = _
      rw [Std.ExtTreeMap.getElem?_erase, ih]
      simp [announced?]

theorem mem_all_after {cs : List DirectoryCall} {a : Announcement} :
    a ∈ (after cs).all ↔ announced? a.id cs.reverse = some a := by
  rw [all, values_eq_map_toList, List.mem_map]
  constructor
  · intro h
    obtain ⟨⟨id, b⟩, hb, rfl⟩ := h
    rw [Std.ExtTreeMap.mem_toList_iff_getElem?_eq_some, getElem?_entries_after] at hb
    rw [id_of_announced? hb]
    exact hb
  · intro h
    refine ⟨(a.id, a), ?_, rfl⟩
    rw [Std.ExtTreeMap.mem_toList_iff_getElem?_eq_some, getElem?_entries_after]
    exact h

theorem ascending_all_after (cs : List DirectoryCall) :
    Ascending Announcement.id (after cs).all := by
  rw [all, values_eq_map_toList]
  refine List.pairwise_map.mpr ((ascending_toList _).imp_of_mem ?_)
  intro x y hx hy hlt
  obtain ⟨id, a⟩ := x
  obtain ⟨id', b⟩ := y
  rw [Std.ExtTreeMap.mem_toList_iff_getElem?_eq_some, getElem?_entries_after] at hx hy
  rw [id_of_announced? hx, id_of_announced? hy]
  exact hlt

theorem mem_discover_after {cs : List DirectoryCall} {address : DevAddr} {a : Announcement} :
    a ∈ (after cs).discover address ↔ Responsible cs address a := by
  rw [discover, List.mem_filter, mem_all_after, Announcement.handles_iff, Responsible]

theorem nodup_discover_after (cs : List DirectoryCall) (address : DevAddr) :
    (((after cs).discover address).map Announcement.id).Nodup :=
  (ascending_all_after cs).nodup_map.sublist (List.filter_sublist.map _)

/-- An announcement that was made and neither replaced nor withdrawn since. -/
def Stands (cs : List DirectoryCall) (a : Announcement) : Prop :=
  ∃ before since, cs = before ++ .announce a :: since ∧ ∀ c ∈ since, c.id ≠ a.id

theorem stands_concat {cs : List DirectoryCall} {c : DirectoryCall} {a : Announcement} :
    Stands (cs ++ [c]) a ↔ c = .announce a ∨ c.id ≠ a.id ∧ Stands cs a := by
  constructor
  · rintro ⟨before, since, hsplit, hsince⟩
    -- the announcement is the last call, or the last call came after it
    obtain rfl | ⟨since, d, rfl⟩ := since.eq_nil_or_concat
    · obtain ⟨-, hlast⟩ := List.append_inj' hsplit rfl
      exact Or.inl (List.singleton_inj.mp hlast)
    · simp only [List.concat_eq_append] at hsplit hsince
      rw [← List.cons_append, ← List.append_assoc] at hsplit
      obtain ⟨hbefore, hlast⟩ := List.append_inj' hsplit rfl
      obtain rfl := List.singleton_inj.mp hlast
      refine Or.inr ⟨hsince c (by simp), before, since, hbefore, fun e he => ?_⟩
      exact hsince e (List.mem_append_left _ he)
  · rintro (rfl | ⟨hother, before, since, rfl, hsince⟩)
    · exact ⟨cs, [], rfl, by simp⟩
    · refine ⟨before, since ++ [c], by simp, ?_⟩
      simpa [or_imp, forall_and] using ⟨hsince, hother⟩

theorem announced?_eq_some_iff {cs : List DirectoryCall} {id : String} {a : Announcement} :
    announced? id cs.reverse = some a ↔ a.id = id ∧ Stands cs a := by
  induction cs using List.reverseRecOn with
  | nil => simp [announced?, Stands]
  | append_singleton cs c ih =>
    rw [List.reverse_append, stands_concat]
    cases c with
    | announce b =>
      simp only [List.reverse_singleton, List.singleton_append, announced?, DirectoryCall.id,
        DirectoryCall.announce.injEq]
      by_cases hid : b.id = id <;> grind
    | remove i =>
      simp only [List.reverse_singleton, List.singleton_append, announced?, DirectoryCall.id]
      by_cases hid : i = id <;> grind

theorem mem_all_after_iff_stands {cs : List DirectoryCall} {a : Announcement} :
    a ∈ (after cs).all ↔ Stands cs a := by
  rw [mem_all_after, announced?_eq_some_iff]
  exact and_iff_right rfl

theorem remove_after_eq_some_iff {cs : List DirectoryCall} {id : String} {a : Announcement} :
    ((after cs).remove id).1 = some a ↔ a.id = id ∧ Stands cs a := by
  rw [remove, getElem?_entries_after, announced?_eq_some_iff]

/-- What a directory lists, returns and finds after any calls. -/
theorem directory_follows_calls (cs : List DirectoryCall) :
    let d := after cs
    Ascending Announcement.id d.all ∧
    (∀ a, a ∈ d.all ↔ Stands cs a) ∧
    (∀ id a, (d.remove id).1 = some a ↔ a.id = id ∧ Stands cs a) ∧
    (∀ address, d.discover address = d.all.filter fun a =>
      ∃ range ∈ a.ranges, ∀ i < range.length,
        AddressRange.bit range.address i = AddressRange.bit address i) ∧
    (∀ p length address, (AddressRange.of p length).contains address = true ↔
      ∀ i < min length 32, AddressRange.bit p i = AddressRange.bit address i) ∧
    (∀ p address, (AddressRange.of p 0).contains address = true) ∧
    (∀ p short long address, short ≤ long → (AddressRange.of p long).contains address = true →
      (AddressRange.of p short).contains address = true) ∧
    ∀ (range : AddressRange) address,
      range.containsMasked? address = some (range.contains address) := by
  intro d
  refine ⟨ascending_all_after cs, fun a => mem_all_after_iff_stands,
    fun id a => remove_after_eq_some_iff, fun address => ?_, fun p length address =>
    AddressRange.contains_of, fun p address => ?_, fun p short long address =>
    AddressRange.contains_of_le, AddressRange.containsMasked?_eq⟩
  · rw [discover]
    refine List.filter_congr fun a _ => ?_
    rw [Bool.eq_iff_iff, decide_eq_true_iff, Announcement.handles_iff]
  · rw [AddressRange.contains_of]
    omega

end Directory

end LorawanRouting
