import LorawanRouting.Config.Load
import LorawanRouting.Proofs.TomlLines

/-!
The configuration file that is written where none is found. Its text reads back as the configuration
it was made from, so writing it changes nothing about what is loaded.
-/

namespace LorawanRouting.Config

open Toml

variable {c : Config}

structure Writable (c : Config) : Prop where
  requestTimeoutMs : Fits c.requestTimeoutMs.toNat
  downlinkBuffer : Fits c.downlinkBuffer.toNat
  streamBuffer : Fits c.streamBuffer.toNat

theorem writable_default (env : Environment) : (default env).Writable where
  requestTimeoutMs := show Fits (5000 : UInt64).toNat by decide
  downlinkBuffer := show Fits (32 : UInt64).toNat by decide
  streamBuffer := show Fits (64 : UInt64).toNat by decide

def numberLine (k : String) (n : UInt64) : String × Line :=
  (writeEntry k (toString n.toNat), .sets ⟨[], k, .integer n.toNat⟩)

def textLine (k s : String) : String × Line :=
  (writeEntry k (writeString s), .sets ⟨[], k, .text s⟩)

def headerLine (k : String) : String × Line :=
  (writeHeader k, .opens (.table [] k []))

def lines (c : Config) : List (String × Line) :=
  [headerLine "router", numberLine "request_timeout_ms" c.requestTimeoutMs,
    numberLine "downlink_buffer" c.downlinkBuffer, ("\n", .blank),
    headerLine "broker", numberLine "stream_buffer" c.streamBuffer, ("\n", .blank),
    headerLine "store", textLine "backend" c.storage.name, textLine "sqlite_path" c.databasePath]

theorem toList_toText (c : Config) : c.toText.toList = c.lines.flatMap fun l => l.1.toList := by
  simp [toText, lines, headerLine, numberLine, textLine]

theorem writtenLine_number {k : String} (hk : BareKey k) {n : UInt64} (hn : Fits n.toNat) :
    WrittenLine (numberLine k n).1 (numberLine k n).2 := by
  refine writtenLine_entry hk ?_
  rw [Nat.toString_eq_ofList_toDigits, String.toList_ofList]
  exact writtenValue_number hn

theorem writtenLine_text {k : String} (hk : BareKey k) (s : String) :
    WrittenLine (textLine k s).1 (textLine k s).2 := by
  refine writtenLine_entry hk ?_
  have hvalue := writtenValue_text s.toList
  rwa [String.ofList_toList, ← String.toList_ofList (l := writeStringChars s.toList)] at hvalue

theorem Writable.writtenLine (h : c.Writable) : ∀ l ∈ c.lines, WrittenLine l.1 l.2 := by
  simp only [lines, List.forall_mem_cons]
  exact ⟨writtenLine_header (by decide), writtenLine_number (by decide) h.requestTimeoutMs,
    writtenLine_number (by decide) h.downlinkBuffer, writtenLine_blank,
    writtenLine_header (by decide), writtenLine_number (by decide) h.streamBuffer,
    writtenLine_blank, writtenLine_header (by decide), writtenLine_text (by decide) _,
    writtenLine_text (by decide) _, by simp⟩

def tables (c : Config) : Entries :=
  [("router", .table .header [("request_timeout_ms", .integer c.requestTimeoutMs.toNat),
      ("downlink_buffer", .integer c.downlinkBuffer.toNat)]),
    ("broker", .table .header [("stream_buffer", .integer c.streamBuffer.toNat)]),
    ("store", .table .header [("backend", .text c.storage.name),
      ("sqlite_path", .text c.databasePath)])]

theorem ofSections_lines (c : Config) :
    Entries.ofSections (sections (c.lines.map Prod.snd)) = some c.tables := by
  rfl

theorem Writable.read?_toText (h : c.Writable) : read? c.toText = some c.tables := by
  have hmark : skipMark c.toText.toList = c.toText.toList := by
    simp [toText, writeHeader, skipMark]
  rw [read?_lines h.writtenLine c.toList_toText hmark, ofSections_lines]

theorem number?_eq_some_iff {v : Value} {n : UInt64} : number? v = some n ↔ v = .integer n.toNat := by
  constructor
  · intro h
    rw [number?.eq_def] at h
    split at h
    case h_1 m =>
      by_cases hm : m < UInt64.size
      · rw [if_pos hm] at h
        rw [← Option.some.inj h, UInt64.toNat_ofNat_of_lt' hm]
        rfl
      · rw [if_neg hm] at h
        cases h
    case h_2 => cases h
  · rintro rfl
    exact (if_pos n.toNat_lt).trans (congrArg some UInt64.ofNat_toNat)

theorem ofName?_eq_some_iff {name : String} {kind : StorageKind} :
    StorageKind.ofName? name = some kind ↔ name = kind.name := by
  constructor
  · intro h
    rw [StorageKind.ofName?.eq_def] at h
    split at h
    case h_1 => exact Option.some.inj h ▸ rfl
    case h_2 => exact Option.some.inj h ▸ rfl
    case h_3 => cases h
  · rintro rfl
    cases kind <;> rfl

theorem ofEntries?_tables (d c : Config) : ofEntries? d c.tables = some c := by
  have hnumber : ∀ n m : UInt64, setting (some (.integer n.toNat)) number? m = some n := fun n _ =>
    number?_eq_some_iff.mpr rfl
  have hstorage : ∀ kind, setting (some (.text c.storage.name)) storage? kind = some c.storage :=
    fun _ => ofName?_eq_some_iff.mpr rfl
  have hpath : ∀ path, setting (some (.text c.databasePath)) text? path = some c.databasePath :=
    fun _ => rfl
  calc
    ofEntries? d c.tables = (do
      let timeout ← setting (some (.integer c.requestTimeoutMs.toNat)) number? d.requestTimeoutMs
      let downlinks ← setting (some (.integer c.downlinkBuffer.toNat)) number? d.downlinkBuffer
      let stream ← setting (some (.integer c.streamBuffer.toNat)) number? d.streamBuffer
      let kind ← setting (some (.text c.storage.name)) storage? d.storage
      let path ← setting (some (.text c.databasePath)) text? d.databasePath
      return ⟨timeout, downlinks, stream, kind, path⟩) := rfl
    _ = some c := by
      simp only [hnumber, hstorage, hpath, Option.bind_eq_bind, Option.bind_some]
      rfl

theorem Writable.ofText?_toText (h : c.Writable) (d : Config) : ofText? d c.toText = some c := by
  rw [ofText?, h.read?_toText, Option.bind_some, ofEntries?_tables]

theorem load_vacant (env : Environment) : load env .vacant = .ok (override env (default env)) := rfl

theorem load_toText_default (env : Environment) :
    load env (.file (default env).toText) = .ok (override env (default env)) := by
  simp [load, base, (writable_default env).ofText?_toText, Except.map]

theorem load_writeDefault (env : Environment) (found : PathEntry) :
    load env (writeDefault env found).2 = load env found := by
  cases found with
  | vacant => exact load_toText_default env
  | blocked => rfl
  | unreadable => rfl
  | file text => rfl

/-- Writing the defaults never changes what is loaded, and never a file that exists. -/
theorem writeDefault_keeps_loading (env : Environment) :
    (∃ text, writeDefault env .vacant = (.ok env.configPath, .file text) ∧
      load env (.file text) = load env .vacant ∧
      writeDefault env (.file text) = (.ok env.configPath, .file text)) ∧
    load env .vacant = .ok (override env (default env)) ∧
    (∀ found, load env (writeDefault env found).2 = load env found) ∧
    ∀ text, writeDefault env (.file text) = (.ok env.configPath, .file text) := by
  refine ⟨⟨(default env).toText, rfl, ?_, rfl⟩, load_vacant env, load_writeDefault env,
    fun _ => rfl⟩
  rw [load_toText_default, load_vacant]

end LorawanRouting.Config
