import LorawanRouting.Proofs.ConfigSettings

/-!
How each setting gets its value: from its own variable, else from its own key of the file, else from
the defaults. No other variable and no other key has a part in it.
-/

namespace LorawanRouting.Config

open Toml (Value Entries)

section Override

variable {α : Type} {env : Environment} {c : Config} {s : Setting} {found : PathEntry}
variable {x y : Content}

def Loadable : PathEntry → Prop
  | .vacant | .blocked => True
  | .unreadable => False
  | .file text => ∃ root, Toml.read? text = some root ∧ InShape root

def fileValue : PathEntry → Setting → Option Value
  | .file text, s => (Toml.read? text).bind (given · s)
  | _, _ => none

theorem base_of_loadable (env : Environment) (h : Loadable found) :
    ∃ c, base env found = .ok c ∧
      ∀ s, FromFile (fileValue found s) s ((default env).get s) (c.get s) := by
  cases found with
  | vacant => exact ⟨_, rfl, fun s => Or.inr ⟨rfl, rfl⟩⟩
  | blocked => exact ⟨_, rfl, fun s => Or.inr ⟨rfl, rfl⟩⟩
  | unreadable => exact h.elim
  | file text =>
    obtain ⟨root, hroot, hshape⟩ := h
    obtain ⟨c, hc, hfrom⟩ := ofEntries?_of_inShape hshape (default env)
    refine ⟨c, by simp [base, ofText?, hroot, hc], fun s => ?_⟩
    rw [fileValue, hroot]
    exact hfrom s

theorem loadable_of_base (h : base env found = .ok c) : Loadable found := by
  cases found with
  | vacant => trivial
  | blocked => trivial
  | unreadable => cases h
  | file text =>
    simp only [base] at h
    cases hread : ofText? (default env) text with
    | none => simp [hread] at h
    | some c =>
      obtain ⟨root, hroot, hc⟩ := Option.bind_eq_some_iff.mp hread
      exact ⟨root, hroot, inShape_of_ofEntries? hc⟩

/-- The value of the variable if it makes sense, else the value beneath. -/
def FromVariable (var : Option String) (s : Setting) (beneath x : Content) : Prop :=
  (∃ text, var = some text ∧ s.Reads text x) ∨
    (∀ text y, var = some text → ¬ s.Reads text y) ∧ x = beneath

theorem ReadBy.fromVariable {read : String → Option α} {wrap : α → Content}
    (h : ReadBy s.Reads read wrap) (var : Option String) (a : α) :
    FromVariable var s (wrap a) (wrap ((var.bind read).getD a)) := by
  cases hread : var.bind read with
  | none =>
    refine Or.inr ⟨fun text y hvar hy => ?_, rfl⟩
    obtain ⟨b, hb, -⟩ := h.complete hy
    simp [hvar, hb] at hread
  | some b =>
    obtain ⟨text, hvar, hb⟩ := Option.bind_eq_some_iff.mp hread
    exact Or.inl ⟨text, hvar, h.sound hb⟩

theorem get_override (env : Environment) (c : Config) (s : Setting) :
    FromVariable (variableOf env s) s (c.get s) ((override env c).get s) := by
  cases s with
  | requestTimeoutMs =>
    exact ReadBy.fromVariable (s := .requestTimeoutMs) readBy_uint64? env.requestTimeout _
  | downlinkBuffer =>
    refine Or.inr ⟨fun text y hvar => ?_, rfl⟩
    cases hvar
  | streamBuffer => exact ReadBy.fromVariable (s := .streamBuffer) readBy_uint64? env.streamBuffer _
  | storage => exact readBy_ofName?.fromVariable env.backend _
  | databasePath =>
    have hpath := readBy_some.fromVariable env.databasePath c.databasePath
    rwa [Option.bind_fun_some] at hpath

theorem FromVariable.unique {var : Option String} {beneath : Content}
    (hx : FromVariable var s beneath x) (hy : FromVariable var s beneath y) : x = y := by
  rcases hx with ⟨text, htext, hx⟩ | ⟨hnone, rfl⟩
  · rcases hy with ⟨text', htext', hy⟩ | ⟨hnone, -⟩
    · rw [htext] at htext'
      rw [← Option.some.inj htext'] at hy
      exact hx.unique hy
    · exact absurd hx (hnone text x htext)
  · rcases hy with ⟨text, htext, hy⟩ | ⟨-, rfl⟩
    · exact absurd hy (hnone text y htext)
    · rfl

end Override

section Load

variable {env : Environment} {c : Config} {s t : Setting}
variable {found found' : PathEntry} {root root' : Entries} {x y : Content}

/-- The value of a setting: its variable over its key of the file over its default. -/
def Resolves (env : Environment) (found : PathEntry) (s : Setting) (x : Content) : Prop :=
  ∃ beneath, FromFile (fileValue found s) s ((default env).get s) beneath ∧
    FromVariable (variableOf env s) s beneath x

theorem Resolves.unique (hx : Resolves env found s x) (hy : Resolves env found' s y)
    (hsame : fileValue found s = fileValue found' s) : x = y := by
  obtain ⟨beneath, hbeneath, hx⟩ := hx
  obtain ⟨beneath', hbeneath', hy⟩ := hy
  rw [hsame] at hbeneath
  rw [hbeneath.unique hbeneath'] at hx
  exact hx.unique hy

theorem load_of_loadable (env : Environment) (h : Loadable found) :
    ∃ c, load env found = .ok c ∧ ∀ s, Resolves env found s (c.get s) := by
  obtain ⟨c, hbase, hfile⟩ := base_of_loadable env h
  exact ⟨override env c, by simp [load, hbase, Except.map], fun s =>
    ⟨c.get s, hfile s, get_override env c s⟩⟩

theorem loadable_of_load (h : load env found = .ok c) : Loadable found := by
  cases hbase : base env found with
  | error e => simp [load, hbase, Except.map] at h
  | ok c => exact loadable_of_base hbase

theorem resolves_of_load (h : load env found = .ok c) (s : Setting) :
    Resolves env found s (c.get s) := by
  obtain ⟨c', hc', hresolves⟩ := load_of_loadable env (loadable_of_load h)
  rw [h] at hc'
  rw [Except.ok.inj hc']
  exact hresolves s

theorem load_eq_error_iff (env : Environment) (found : PathEntry) (e : ConfigError) :
    load env found = .error e ↔
      (found = .unreadable ∧ e = .readFailed env.configPath) ∨
      ∃ text, found = .file text ∧ (∀ root, Toml.read? text = some root → ¬ InShape root) ∧
        e = .parseFailed env.configPath := by
  by_cases hloadable : Loadable found
  · obtain ⟨c, hc, -⟩ := load_of_loadable env hloadable
    rw [hc]
    refine iff_of_false (by simp) ?_
    rintro (⟨rfl, -⟩ | ⟨text, rfl, hbad, -⟩)
    · exact hloadable
    · obtain ⟨root, hroot, hshape⟩ := hloadable
      exact hbad root hroot hshape
  · cases found with
    | vacant => exact absurd trivial hloadable
    | blocked => exact absurd trivial hloadable
    | unreadable => simp [load, base, Except.map, eq_comm]
    | file text =>
      have hread : ofText? (default env) text = none := by
        cases hc : ofText? (default env) text with
        | none => rfl
        | some c =>
          have hbase : base env (.file text) = .ok c := by rw [base, hc]
          exact absurd (loadable_of_base hbase) hloadable
      have hbad : ∀ root, Toml.read? text = some root → ¬ InShape root := fun root hroot hshape =>
        hloadable ⟨root, hroot, hshape⟩
      have hload : load env (.file text) = .error (.parseFailed env.configPath) := by
        simp [load, base, hread, Except.map]
      rw [hload]
      constructor
      · intro h
        exact Or.inr ⟨text, rfl, hbad, (Except.error.inj h).symm⟩
      · rintro (⟨h, -⟩ | ⟨-, -, -, rfl⟩)
        · cases h
        · rfl

def AgreeBut (s : Setting) (c c' : Config) : Prop := ∀ t, t ≠ s → c.get t = c'.get t

/-- Both fail in the same way, or both load and agree but for one setting. -/
def SameBut (s : Setting) : Except ConfigError Config → Except ConfigError Config → Prop
  | .ok c, .ok c' => AgreeBut s c c'
  | .error e, .error e' => e = e'
  | _, _ => False

theorem base_withVariable (env : Environment) (text : Option String) (s : Setting)
    (found : PathEntry) : base (withVariable env text s) found = base env found := by
  cases s <;> rfl

theorem agreeBut_override (env : Environment) (text : Option String) (s : Setting) (c : Config) :
    AgreeBut s (override env c) (override (withVariable env text s) c) := by
  intro t ht
  cases s <;> cases t <;> simp_all [override, withVariable, get]

theorem sameBut_withVariable (env : Environment) (found : PathEntry) (s : Setting)
    (text : Option String) : SameBut s (load env found) (load (withVariable env text s) found) := by
  rw [load, load, base_withVariable]
  cases base env found with
  | error e => rfl
  | ok c => exact agreeBut_override env text s c

theorem lookup_replace_self (entries : Entries) (k : String) (v : Value) :
    (entries.replace k v).lookup k = (entries.lookup k).map fun _ => v := by
  induction entries with
  | nil => rfl
  | cons entry entries ih =>
    obtain ⟨k', w⟩ := entry
    simp only [Entries.replace, List.map_cons] at ih ⊢
    by_cases hk : k' = k
    · subst hk
      simp
    · have hne : (k == k') = false := beq_false_of_ne (Ne.symm hk)
      simp [List.lookup_cons, hk, hne, ih]

theorem lookup_replace_of_ne (entries : Entries) {k name : String} (v : Value) (h : name ≠ k) :
    (entries.replace k v).lookup name = entries.lookup name := by
  induction entries with
  | nil => rfl
  | cons entry entries ih =>
    obtain ⟨k', w⟩ := entry
    simp only [Entries.replace, List.map_cons] at ih ⊢
    by_cases hk : k' = k
    · subst hk
      simp [List.lookup_cons, beq_false_of_ne h, ih]
    · cases hname : name == k' <;> simp [List.lookup_cons, hk, hname, ih]

theorem key_ne_of_ne (hsection : t.sectionName = s.sectionName) (h : t ≠ s) : t.key ≠ s.key := by
  cases s <;> cases t <;> simp_all [Setting.sectionName, Setting.key]

/-- The tables of two files that differ in one key at most, whose value in the second is valid. -/
structure Edited (s : Setting) (root root' : Entries) : Prop where
  sections : ∀ (t : Setting) (v : Value), root'.lookup t.sectionName = some v → IsSection v
  others : ∀ t, t ≠ s → given root' t = given root t
  valid : ∀ v, given root' s = some v → ∃ x, s.Holds v x

def edit (root : Entries) (s : Setting) (v : Value) : Entries :=
  match root.lookup s.sectionName with
  | some (.table origin entries) =>
    root.replace s.sectionName (.table origin (Entries.replace entries s.key v))
  | _ => root

theorem edited_edit (hroot : InShape root) {v : Value} (hv : s.Holds v x) :
    Edited s root (edit root s v) := by
  unfold edit
  split
  case h_1 origin entries hsection =>
    have hself : (root.replace s.sectionName
        (.table origin (Entries.replace entries s.key v))).lookup s.sectionName =
          some (.table origin (Entries.replace entries s.key v)) := by
      rw [lookup_replace_self, hsection, Option.map_some]
    refine ⟨fun t w hw => ?_, fun t ht => ?_, fun w hw => ?_⟩
    · by_cases hname : t.sectionName = s.sectionName
      · rw [hname, hself] at hw
        rw [← Option.some.inj hw]
        trivial
      · rw [lookup_replace_of_ne _ _ hname] at hw
        exact hroot.sections t w hw
    · by_cases hname : t.sectionName = s.sectionName
      · simp only [given, hname, hself, hsection]
        exact lookup_replace_of_ne _ _ (key_ne_of_ne hname ht)
      · simp only [given, lookup_replace_of_ne _ _ hname]
    · simp only [given, hself, lookup_replace_self, Option.map_eq_some_iff] at hw
      obtain ⟨-, -, rfl⟩ := hw
      exact ⟨x, hv⟩
  case h_2 => exact ⟨hroot.sections, fun _ _ => rfl, hroot.settings s⟩

theorem Edited.inShape (h : Edited s root root') (hroot : InShape root) : InShape root' := by
  refine ⟨h.sections, fun t v hv => ?_⟩
  by_cases ht : t = s
  · subst ht
    exact h.valid v hv
  · rw [h.others t ht] at hv
    exact hroot.settings t v hv

theorem load_of_edited {text text' : String} (hroot : Toml.read? text = some root)
    (hroot' : Toml.read? text' = some root') (h : Edited s root root')
    (hload : load env (.file text) = .ok c) :
    ∃ c', load env (.file text') = .ok c' ∧ AgreeBut s c c' := by
  obtain ⟨r, hr, hshape⟩ := loadable_of_load hload
  obtain rfl : root = r := Option.some.inj (hroot.symm.trans hr)
  have hloadable : Loadable (.file text') := ⟨root', hroot', h.inShape hshape⟩
  obtain ⟨c', hc', hresolves⟩ := load_of_loadable env hloadable
  refine ⟨c', hc', fun t ht => ?_⟩
  refine (resolves_of_load hload t).unique (hresolves t) ?_
  simp [fileValue, hroot, hroot', h.others t ht]

/-- Loading fails only over what the file is, and each setting comes from its own variable, its own
key or its own default; a change of one of these changes no other setting. -/
theorem settings_resolve_apart (env : Environment) :
    (∀ found e, load env found = .error e ↔
      (found = .unreadable ∧ e = .readFailed env.configPath) ∨
      ∃ text, found = .file text ∧ (∀ root, Toml.read? text = some root → ¬ InShape root) ∧
        e = .parseFailed env.configPath) ∧
    (∀ found c, load env found = .ok c → ∀ s x, c.get s = x ↔ Resolves env found s x) ∧
    (∀ found s text, SameBut s (load env found) (load (withVariable env text s) found)) ∧
    (∀ s text text' root root' c, Toml.read? text = some root → Toml.read? text' = some root' →
      Edited s root root' → load env (.file text) = .ok c →
        ∃ c', load env (.file text') = .ok c' ∧ AgreeBut s c c') ∧
    ∀ s root v x, InShape root → Setting.Holds s v x → Edited s root (edit root s v) := by
  refine ⟨load_eq_error_iff env, fun found c hload s x => ?_, sameBut_withVariable env, ?_,
    fun _ _ _ _ hroot hv => edited_edit hroot hv⟩
  · have hresolves := resolves_of_load hload s
    constructor
    · rintro rfl
      exact hresolves
    · intro hx
      exact hresolves.unique hx rfl
  · intro s text text' root root' c hroot hroot' hedited hload
    exact load_of_edited hroot hroot' hedited hload

end Load

end LorawanRouting.Config
