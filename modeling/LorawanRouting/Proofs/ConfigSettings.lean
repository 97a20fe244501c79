import LorawanRouting.Proofs.ConfigFile
import LorawanRouting.Proofs.Readers

/-!
The settings of a configuration, each with its variable, its key and its kind of value, and what the
tables of a file say about them.
-/

namespace LorawanRouting.Config

open Toml (Value Entries)

inductive Setting
  | requestTimeoutMs
  | downlinkBuffer
  | streamBuffer
  | storage
  | databasePath
  deriving DecidableEq, Repr

inductive Content
  | number (n : UInt64)
  | storage (kind : StorageKind)
  | path (text : String)
  deriving DecidableEq, Repr

def get (c : Config) : Setting → Content
  | .requestTimeoutMs => .number c.requestTimeoutMs
  | .downlinkBuffer => .number c.downlinkBuffer
  | .streamBuffer => .number c.streamBuffer
  | .storage => .storage c.storage
  | .databasePath => .path c.databasePath

def variableOf (env : Environment) : Setting → Option String
  | .requestTimeoutMs => env.requestTimeout
  | .downlinkBuffer => none
  | .streamBuffer => env.streamBuffer
  | .storage => env.backend
  | .databasePath => env.databasePath

def withVariable (env : Environment) (text : Option String) : Setting → Environment
  | .requestTimeoutMs => { env with requestTimeout := text }
  | .downlinkBuffer => env
  | .streamBuffer => { env with streamBuffer := text }
  | .storage => { env with backend := text }
  | .databasePath => { env with databasePath := text }

namespace Setting

def Reads : Setting → String → Content → Prop
  | .storage, text, x => ∃ kind : StorageKind, text = kind.name ∧ x = .storage kind
  | .databasePath, text, x => ∃ path, text = path ∧ x = .path path
  | _, text, x => ∃ n : UInt64, Numeral.Denotes text n.toNat ∧ x = .number n

/-- The ways in which a file may name a storage kind. -/
def Names (v : Value) (kind : StorageKind) : Prop :=
  v = .text kind.name ∨ ∃ origin w, v = .table origin [(kind.name, w)] ∧ isNothing w = true

/-- What a value of the file sets. -/
def Holds : Setting → Value → Content → Prop
  | .storage, v, x => ∃ kind, Names v kind ∧ x = .storage kind
  | .databasePath, v, x => ∃ text, v = .text text ∧ x = .path text
  | _, v, x => ∃ n : UInt64, v = .integer n.toNat ∧ x = .number n

def sectionName : Setting → String
  | .requestTimeoutMs | .downlinkBuffer => "router"
  | .streamBuffer => "broker"
  | .storage | .databasePath => "store"

def key : Setting → String
  | .requestTimeoutMs => "request_timeout_ms"
  | .downlinkBuffer => "downlink_buffer"
  | .streamBuffer => "stream_buffer"
  | .storage => "backend"
  | .databasePath => "sqlite_path"

def position : Setting → Nat
  | .downlinkBuffer | .databasePath => 1
  | _ => 0

end Setting

def IsSection : Value → Prop
  | .table .. | .array _ | .tables _ | .moment => True
  | _ => False

def given (root : Entries) (s : Setting) : Option Value :=
  match root.lookup s.sectionName with
  | some (.table _ entries) => entries.lookup s.key
  | some (.array items) => items[s.position]?
  | some (.tables members) => members[s.position]?.map (.table .header)
  | _ => none

/-- Every section that is there is one, and every value that is given is of its setting's kind. -/
structure InShape (root : Entries) : Prop where
  sections : ∀ (s : Setting) (v : Value), root.lookup s.sectionName = some v → IsSection v
  settings : ∀ (s : Setting) (v : Value), given root s = some v → ∃ x, s.Holds v x

section Readers

variable {α β : Type} {holds : β → Content → Prop} {read : β → Option α} {wrap : α → Content}

structure ReadBy (holds : β → Content → Prop) (read : β → Option α) (wrap : α → Content) :
    Prop where
  sound : ∀ {b a}, read b = some a → holds b (wrap a)
  complete : ∀ {b x}, holds b x → ∃ a, read b = some a ∧ x = wrap a

theorem ReadBy.unique (h : ReadBy holds read wrap) {b : β} {x y : Content} (hx : holds b x)
    (hy : holds b y) : x = y := by
  obtain ⟨a, ha, rfl⟩ := h.complete hx
  obtain ⟨a', ha', rfl⟩ := h.complete hy
  rw [ha] at ha'
  rw [Option.some.inj ha']

theorem readBy_of_iff (wrap : α → Content) {means : β → α → Prop}
    (hread : ∀ b a, read b = some a ↔ means b a) :
    ReadBy (fun b x => ∃ a, means b a ∧ x = wrap a) read wrap where
  sound h := ⟨_, (hread _ _).mp h, rfl⟩
  complete h := by
    obtain ⟨a, ha, rfl⟩ := h
    exact ⟨a, (hread _ _).mpr ha, rfl⟩

theorem storage?_eq_some_iff {v : Value} {kind : StorageKind} :
    storage? v = some kind ↔ Setting.Names v kind := by
  constructor
  · intro h
    rw [storage?.eq_def] at h
    split at h
    case h_1 name => exact Or.inl (congrArg _ (ofName?_eq_some_iff.mp h))
    case h_2 origin name w =>
      by_cases hw : isNothing w = true
      · rw [if_pos hw] at h
        exact Or.inr ⟨origin, w, by rw [ofName?_eq_some_iff.mp h], hw⟩
      · rw [if_neg hw] at h
        cases h
    case h_3 => cases h
  · rintro (rfl | ⟨origin, w, rfl, hw⟩)
    · exact ofName?_eq_some_iff.mpr rfl
    · rw [storage?, if_pos hw]
      exact ofName?_eq_some_iff.mpr rfl

theorem text?_eq_some_iff {v : Value} {text : String} : text? v = some text ↔ v = .text text := by
  cases v <;> simp [text?]

theorem readBy_number? :
    ReadBy (fun v x => ∃ n : UInt64, v = Value.integer n.toNat ∧ x = .number n) number? .number :=
  readBy_of_iff .number fun _ _ => number?_eq_some_iff

theorem readBy_uint64? :
    ReadBy (fun t x => ∃ n : UInt64, Numeral.Denotes t n.toNat ∧ x = .number n)
      Numeral.uint64? .number :=
  readBy_of_iff .number fun _ _ => Numeral.uint64?_eq_some_iff

theorem readBy_storage? : ReadBy (Setting.Holds .storage) storage? .storage :=
  readBy_of_iff .storage fun _ _ => storage?_eq_some_iff

theorem readBy_ofName? : ReadBy (Setting.Reads .storage) StorageKind.ofName? .storage :=
  readBy_of_iff .storage fun _ _ => ofName?_eq_some_iff

theorem readBy_text? : ReadBy (Setting.Holds .databasePath) text? .path :=
  readBy_of_iff .path fun _ _ => text?_eq_some_iff

theorem readBy_some : ReadBy (Setting.Reads .databasePath) some .path :=
  readBy_of_iff .path fun _ _ => by simp

end Readers

theorem Setting.Holds.unique {s : Setting} {v : Value} {x y : Content} (hx : s.Holds v x)
    (hy : s.Holds v y) : x = y := by
  cases s with
  | requestTimeoutMs => exact readBy_number?.unique hx hy
  | downlinkBuffer => exact readBy_number?.unique hx hy
  | streamBuffer => exact readBy_number?.unique hx hy
  | storage => exact readBy_storage?.unique hx hy
  | databasePath => exact readBy_text?.unique hx hy

theorem Setting.Reads.unique {s : Setting} {text : String} {x y : Content} (hx : s.Reads text x)
    (hy : s.Reads text y) : x = y := by
  cases s with
  | requestTimeoutMs => exact readBy_uint64?.unique hx hy
  | downlinkBuffer => exact readBy_uint64?.unique hx hy
  | streamBuffer => exact readBy_uint64?.unique hx hy
  | storage => exact readBy_ofName?.unique hx hy
  | databasePath => exact readBy_some.unique hx hy

section File

variable {α : Type} {root : Entries} {d c : Config} {s : Setting} {v : Value}
variable {beneath x y : Content}

def FromFile (given : Option Value) (s : Setting) (beneath x : Content) : Prop :=
  (∃ v, given = some v ∧ s.Holds v x) ∨ given = none ∧ x = beneath

theorem FromFile.unique {g : Option Value} (hx : FromFile g s beneath x)
    (hy : FromFile g s beneath y) : x = y := by
  rcases hx with ⟨v, hv, hx⟩ | ⟨hnone, rfl⟩
  · rcases hy with ⟨w, hw, hy⟩ | ⟨hnone, -⟩
    · rw [hv] at hw
      rw [← Option.some.inj hw] at hy
      exact hx.unique hy
    · simp [hv] at hnone
  · rcases hy with ⟨w, hw, -⟩ | ⟨-, rfl⟩
    · simp [hw] at hnone
    · rfl

section ReadBy

variable {read : Value → Option α} {wrap : α → Content}

theorem ReadBy.exists_setting (h : ReadBy s.Holds read wrap) (hroot : InShape root) (a : α) :
    ∃ b, setting (given root s) read a = some b ∧ FromFile (given root s) s (wrap a) (wrap b) := by
  cases hgiven : given root s with
  | none => exact ⟨a, rfl, Or.inr ⟨rfl, rfl⟩⟩
  | some v =>
    obtain ⟨x, hx⟩ := hroot.settings s v hgiven
    obtain ⟨b, hb, rfl⟩ := h.complete hx
    exact ⟨b, hb, Or.inl ⟨v, rfl, hx⟩⟩

theorem ReadBy.exists_holds (h : ReadBy s.Holds read wrap) {a b : α}
    (hset : setting (given root s) read a = some b) (hv : given root s = some v) :
    ∃ x, s.Holds v x := by
  rw [hv] at hset
  exact ⟨wrap b, h.sound hset⟩

end ReadBy

theorem exists_section? {name : String}
    (hsection : ∀ v, root.lookup name = some v → IsSection v) (names : List String) :
    ∃ f, section? names root name = some f ∧
      ∀ s : Setting, s.sectionName = name → names.idxOf s.key = s.position →
        f s.key = given root s := by
  simp only [section?, given]
  cases hlookup : root.lookup name with
  | none => exact ⟨_, rfl, fun s hs _ => by simp [hs, hlookup]⟩
  | some v =>
    have hv := hsection v hlookup
    cases v with
    | table origin entries => exact ⟨_, rfl, fun s hs _ => by simp [hs, hlookup]⟩
    | array items => exact ⟨_, rfl, fun s hs hp => by simp [hs, hlookup, hp]⟩
    | tables members => exact ⟨_, rfl, fun s hs hp => by simp [hs, hlookup, hp]⟩
    | moment => exact ⟨_, rfl, fun s hs _ => by simp [hs, hlookup]⟩
    | text _ => exact hv.elim
    | integer _ => exact hv.elim
    | float => exact hv.elim
    | boolean _ => exact hv.elim

theorem isSection_of_section? {names : List String} {name : String} {f : String → Option Value}
    (h : section? names root name = some f) (hv : root.lookup name = some v) : IsSection v := by
  simp only [section?, hv] at h
  cases v with
  | table _ _ => trivial
  | array _ => trivial
  | tables _ => trivial
  | moment => trivial
  | text _ => cases h
  | integer _ => cases h
  | float => cases h
  | boolean _ => cases h

theorem ofEntries?_of_sections
    (h : ∀ (s : Setting) (v : Value), root.lookup s.sectionName = some v → IsSection v)
    (d : Config) :
    ofEntries? d root = do
      let timeout ← setting (given root .requestTimeoutMs) number? d.requestTimeoutMs
      let downlinks ← setting (given root .downlinkBuffer) number? d.downlinkBuffer
      let stream ← setting (given root .streamBuffer) number? d.streamBuffer
      let kind ← setting (given root .storage) storage? d.storage
      let path ← setting (given root .databasePath) text? d.databasePath
      return ⟨timeout, downlinks, stream, kind, path⟩ := by
  obtain ⟨router, hrouter, hinRouter⟩ := exists_section? (h .requestTimeoutMs)
    ["request_timeout_ms", "downlink_buffer"]
  obtain ⟨broker, hbroker, hinBroker⟩ := exists_section? (h .streamBuffer) ["stream_buffer"]
  obtain ⟨store, hstore, hinStore⟩ := exists_section? (h .storage) ["backend", "sqlite_path"]
  rw [← hinRouter .requestTimeoutMs rfl (by decide), ← hinRouter .downlinkBuffer rfl (by decide),
    ← hinBroker .streamBuffer rfl (by decide), ← hinStore .storage rfl (by decide),
    ← hinStore .databasePath rfl (by decide)]
  simp only [Setting.sectionName] at hrouter hbroker hstore
  simp only [ofEntries?, hrouter, hbroker, hstore, Option.bind_eq_bind, Option.bind_some]
  rfl

theorem isSection_of_ofEntries? (h : ofEntries? d root = some c) (s : Setting)
    (hv : root.lookup s.sectionName = some v) : IsSection v := by
  simp only [ofEntries?, Option.bind_eq_bind, Option.bind_eq_some_iff] at h
  obtain ⟨router, hrouter, broker, hbroker, store, hstore, -⟩ := h
  cases s with
  | requestTimeoutMs => exact isSection_of_section? hrouter hv
  | downlinkBuffer => exact isSection_of_section? hrouter hv
  | streamBuffer => exact isSection_of_section? hbroker hv
  | storage => exact isSection_of_section? hstore hv
  | databasePath => exact isSection_of_section? hstore hv

theorem inShape_of_ofEntries? (h : ofEntries? d root = some c) : InShape root := by
  have hsections := fun s v (hv : root.lookup (Setting.sectionName s) = some v) =>
    isSection_of_ofEntries? h s hv
  refine ⟨hsections, fun s v hv => ?_⟩
  simp only [ofEntries?_of_sections hsections, Option.bind_eq_bind, Option.bind_eq_some_iff] at h
  obtain ⟨timeout, htimeout, downlinks, hdownlinks, stream, hstream, kind, hkind, path, hpath, -⟩ := h
  cases s with
  | requestTimeoutMs => exact ReadBy.exists_holds (s := .requestTimeoutMs) readBy_number? htimeout hv
  | downlinkBuffer => exact ReadBy.exists_holds (s := .downlinkBuffer) readBy_number? hdownlinks hv
  | streamBuffer => exact ReadBy.exists_holds (s := .streamBuffer) readBy_number? hstream hv
  | storage => exact readBy_storage?.exists_holds hkind hv
  | databasePath => exact readBy_text?.exists_holds hpath hv

theorem ofEntries?_of_inShape (h : InShape root) (d : Config) :
    ∃ c, ofEntries? d root = some c ∧ ∀ s, FromFile (given root s) s (d.get s) (c.get s) := by
  obtain ⟨timeout, htimeout, hfromTimeout⟩ :=
    ReadBy.exists_setting (s := .requestTimeoutMs) readBy_number? h d.requestTimeoutMs
  obtain ⟨downlinks, hdownlinks, hfromDownlinks⟩ :=
    ReadBy.exists_setting (s := .downlinkBuffer) readBy_number? h d.downlinkBuffer
  obtain ⟨stream, hstream, hfromStream⟩ :=
    ReadBy.exists_setting (s := .streamBuffer) readBy_number? h d.streamBuffer
  obtain ⟨kind, hkind, hfromKind⟩ := readBy_storage?.exists_setting h d.storage
  obtain ⟨path, hpath, hfromPath⟩ := readBy_text?.exists_setting h d.databasePath
  refine ⟨⟨timeout, downlinks, stream, kind, path⟩, ?_, fun s => ?_⟩
  · simp [ofEntries?_of_sections h.sections, htimeout, hdownlinks, hstream, hkind, hpath]
  · cases s with
    | requestTimeoutMs => exact hfromTimeout
    | downlinkBuffer => exact hfromDownlinks
    | streamBuffer => exact hfromStream
    | storage => exact hfromKind
    | databasePath => exact hfromPath

end File

end LorawanRouting.Config
