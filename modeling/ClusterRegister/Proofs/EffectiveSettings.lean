import ClusterRegister.Program.Run
import ClusterRegister.Proofs.FlagChecks
import ClusterRegister.Proofs.RecordTexts

/-!
# Effective settings

The settings under which the program runs: those of the file that is used, the standard ones for what it leaves out, and
the store that the arguments name (`settings_layered`). The settings of the file have to be valid by themselves, before
the arguments take effect.
-/

namespace ClusterRegister

open ClusterRegister.Calendar ClusterRegister.Files ClusterRegister.Json ClusterRegister.LogFilter
open ClusterRegister.Program ClusterRegister.Record ClusterRegister.Text

/-- Members or elements that give settings. What they leave out is standard. -/
structure SettingsFields (fields : List (String × Json.Value)) (s : Settings) : Prop where
  storePath : MayGive .path fields "store_path" Settings.standard.storePath s.storePath
  logLevel : MayGive .text fields "log_level" Settings.standard.logLevel s.logLevel
  prompt : MayGive .text fields "prompt" Settings.standard.prompt s.prompt
  workerAddr : MayGive .text fields "default_worker_addr" Settings.standard.workerAddr s.workerAddr
  sshUser : MayGive .text fields "default_ssh_user" Settings.standard.sshUser s.sshUser
  sshPort : MayGive .port fields "default_ssh_port" Settings.standard.sshPort s.sshPort

private theorem rowGiven_settings {fields : List (String × Json.Value)} (s : Settings) :
    RowGiven fields (Stored.layout Settings) (Stored.toRow s) ↔ SettingsFields fields s := by
  constructor
  · rintro ⟨storePath, logLevel, prompt, workerAddr, sshUser, sshPort, -⟩
    exact ⟨(given_optional rfl).1 storePath, (given_optional rfl).1 logLevel, (given_optional rfl).1 prompt,
      (given_optional rfl).1 workerAddr, (given_optional rfl).1 sshUser, (given_optional rfl).1 sshPort⟩
  · rintro ⟨storePath, logLevel, prompt, workerAddr, sshUser, sshPort⟩
    exact ⟨(given_optional rfl).2 storePath, (given_optional rfl).2 logLevel, (given_optional rfl).2 prompt,
      (given_optional rfl).2 workerAddr, (given_optional rfl).2 sshUser, (given_optional rfl).2 sshPort, trivial⟩

/-- Members or elements of a text that settings can be read from: none of their keys is repeated. -/
def SettingsText (text : List Char) (fields : List (String × Json.Value)) : Prop :=
  Presents (Stored.layout Settings) text fields ∧ Unrepeated (Stored.layout Settings) fields

theorem decode_settings_iff {text : List Char} {s : Settings} :
    decode (Utf8.encode text) = .ok s ↔ ∃ fields, SettingsText text fields ∧ SettingsFields fields s := by
  have full : ∀ row, Stored.toRow (Stored.ofRow row : Settings) = row := fun _ => rfl
  simp only [decode_eq_ok_iff_given full, rowGiven_settings, SettingsText, and_assoc]

/-- A text that is not empty, a colon, and a number from 1 to 65535; the text may have colons. -/
def IsAddress (addr : String) : Prop :=
  ∃ host port n, addr.toList = host ++ ':' :: port ∧ ':' ∉ port ∧ host ≠ [] ∧ Line.Unsigned port n ∧
    1 ≤ n ∧ n ≤ 65535

/-- Settings that can be used as they are. -/
structure Settings.Valid (s : Settings) : Prop where
  storePath : s.storePath ≠ ""
  logLevel : validateFilter s.logLevel = .ok ()
  workerAddr : IsAddress s.workerAddr
  sshUser : ∃ c ∈ s.sshUser.toList, isBlank c = false
  sshPort : 1 ≤ s.sshPort.toNat

theorem splitAtLastColon_eq_none_iff {cs : List Char} : splitAtLastColon cs = none ↔ ':' ∉ cs := by
  induction cs with
  | nil => simp [splitAtLastColon]
  | cons c cs ih =>
    rw [splitAtLastColon, List.mem_cons, not_or, ← ih]
    cases splitAtLastColon cs with
    | some split => simp
    | none =>
      by_cases colon : c = ':'
      · simp [colon]
      · simp [colon, Ne.symm colon]

theorem splitAtLastColon_eq_some_iff {cs host port : List Char} :
    splitAtLastColon cs = some (host, port) ↔ cs = host ++ ':' :: port ∧ ':' ∉ port := by
  induction cs generalizing host with
  | nil => simp [splitAtLastColon]
  | cons c cs ih =>
    rw [splitAtLastColon]
    cases later : splitAtLastColon cs with
    | some split =>
      obtain ⟨front, back⟩ := split
      have colon : ':' ∈ cs := by
        by_contra none
        rw [splitAtLastColon_eq_none_iff.2 none] at later
        cases later
      constructor
      · rintro ⟨⟩
        obtain ⟨rfl, alone⟩ := ih.1 later
        exact ⟨rfl, alone⟩
      · rintro ⟨whole, alone⟩
        cases host with
        | nil =>
          obtain ⟨-, rfl⟩ := List.cons.inj whole
          exact absurd colon alone
        | cons d host =>
          obtain ⟨rfl, split⟩ := List.cons.inj whole
          have same := later.symm.trans (ih.2 ⟨split, alone⟩)
          cases same
          rfl
    | none =>
      have no_colon := splitAtLastColon_eq_none_iff.1 later
      constructor
      · intro split
        by_cases colon : c = ':'
        · rw [if_pos colon] at split
          cases split
          exact ⟨by rw [colon]; rfl, no_colon⟩
        · rw [if_neg colon] at split
          cases split
      · rintro ⟨whole, alone⟩
        cases host with
        | nil =>
          obtain ⟨rfl, rfl⟩ := List.cons.inj whole
          rfl
        | cons d host =>
          obtain ⟨-, rfl⟩ := List.cons.inj whole
          exact absurd (by simp) no_colon

theorem isAddress_iff {addr : String} : isAddress addr = true ↔ IsAddress addr := by
  rw [isAddress]
  constructor
  · intro valid
    cases split : splitAtLastColon addr.toList with
    | none => rw [split] at valid; cases valid
    | some parts =>
      obtain ⟨host, port⟩ := parts
      obtain ⟨whole, alone⟩ := splitAtLastColon_eq_some_iff.1 split
      rw [split] at valid
      simp only [Bool.and_eq_true, Bool.not_eq_true', List.isEmpty_eq_false_iff, Option.isSome_iff_exists] at valid
      obtain ⟨some_host, number, read⟩ := valid
      exact ⟨host, port, number.toNat, whole, alone, some_host, Line.port?_eq_some_iff.1 read⟩
  · rintro ⟨host, port, n, whole, alone, some_host, number, positive, small⟩
    have value : (UInt16.ofNat n).toNat = n := UInt16.toNat_ofNat_of_lt' (Nat.lt_of_le_of_lt small (by decide))
    have read : port? port = some (UInt16.ofNat n) :=
      Line.port?_eq_some_iff.2 (by rw [value]; exact ⟨number, positive, small⟩)
    rw [splitAtLastColon_eq_some_iff.2 ⟨whole, alone⟩]
    simp [some_host, read]

theorem isBlankText_eq_false_iff {s : String} : isBlankText s = false ↔ ∃ c ∈ s.toList, isBlank c = false := by
  simp [isBlankText]

/-- Settings are accepted, as they are, if and only if they are valid. -/
theorem validate_eq_ok_iff {s t : Settings} : s.validate = .ok t ↔ t = s ∧ s.Valid := by
  constructor
  · intro validated
    obtain ⟨storePath, validated⟩ := ok_of_guard validated
    cases filter : validateFilter s.logLevel with
    | error fault =>
      rw [filter] at validated
      cases fault <;> cases validated
    | ok _ =>
      rw [filter] at validated
      obtain ⟨address, validated⟩ := ok_of_guard validated
      obtain ⟨user, validated⟩ := ok_of_guard validated
      obtain ⟨port, same⟩ := ok_of_guard validated
      cases same
      refine ⟨rfl, storePath, filter, isAddress_iff.1 (not_not.1 address), ?_, ?_⟩
      · exact isBlankText_eq_false_iff.1 (Bool.eq_false_iff.2 user)
      · exact Nat.pos_of_ne_zero fun zero => port (UInt16.toNat_inj.1 zero)
  · rintro ⟨rfl, storePath, filter, address, user, port⟩
    have some_port : t.sshPort ≠ 0 := by
      intro zero
      rw [zero] at port
      exact absurd port (by decide)
    rw [Settings.validate, if_neg storePath, filter]
    simp only [isAddress_iff.2 address, isBlankText_eq_false_iff.2 user, some_port, not_true_eq_false,
      Bool.false_eq_true, if_false]

/-- The check of settings aborts only where the one of their log filter does. -/
theorem aborted_of_validate {s : Settings} {cut : BadCut} (aborted : s.validate = .error (.aborted cut)) :
    validateFilter s.logLevel = .error (.badCut cut) := by
  rw [Settings.validate] at aborted
  split at aborted
  · cases aborted
  split at aborted
  · next filter =>
    cases aborted
    exact filter
  · cases aborted
  · split at aborted
    · cases aborted
    split at aborted
    · cases aborted
    split at aborted <;> cases aborted

/-- A path names a file with a text. -/
def HasText (tree : Tree) (path : String) (text : List Char) : Prop :=
  tree.find path = .ok (.file (Utf8.encode text))

/-- The file that settings are taken from: the one that is named, or else the usual one, if it exists. -/
def usedFile (tree : Tree) : Option String → Option String
  | some path => some path
  | none => if tree.pathExists usualFile then some usualFile else none

/-- The members or elements that settings are taken from: those of the file that is used, and none without one. -/
inductive UsedFields (tree : Tree) (named : Option String) : List (String × Json.Value) → Prop
  | file {path : String} {text : List Char} {fields : List (String × Json.Value)} :
    usedFile tree named = some path → HasText tree path text → SettingsText text fields →
    UsedFields tree named fields
  | nothing : usedFile tree named = none → UsedFields tree named []

/-- Settings before the arguments take effect on them. -/
def OwnSettings (tree : Tree) (named : Option String) (s : Settings) : Prop :=
  ∃ fields, UsedFields tree named fields ∧ SettingsFields fields s

theorem readText_eq_ok_iff {tree : Tree} {path : String} {bytes : Bytes} :
    tree.readText path = .ok bytes ↔ ∃ text, bytes = Utf8.encode text ∧ HasText tree path text := by
  rw [Tree.readText]
  constructor
  · intro read
    split at read
    · cases read
    · cases read
    · cases read
    · next found =>
      split at read
      · next whole =>
        cases read
        obtain ⟨text, decoded⟩ := Option.isSome_iff_exists.1 whole
        obtain rfl := Utf8.decode?_eq_some_iff.1 decoded
        exact ⟨text, rfl, found⟩
      · cases read
  · rintro ⟨text, rfl, found⟩
    rw [found]
    simp only [Utf8.decode?_encode, Option.isSome_some, if_true]

theorem load_eq_ok_iff {tree : Tree} {path : String} {s : Settings} :
    Settings.load tree path = .ok s ↔
      (∃ text fields, HasText tree path text ∧ SettingsText text fields ∧ SettingsFields fields s) ∧ s.Valid := by
  rw [Settings.load]
  constructor
  · intro loaded
    cases read : tree.readText path with
    | error e => rw [read] at loaded; cases loaded
    | ok bytes =>
      obtain ⟨text, rfl, found⟩ := readText_eq_ok_iff.1 read
      rw [read] at loaded
      simp only at loaded
      cases decoded : (decode (Utf8.encode text) : Except Malformed Settings) with
      | error reason => rw [decoded] at loaded; cases loaded
      | ok own =>
        rw [decoded] at loaded
        obtain ⟨rfl, valid⟩ := validate_eq_ok_iff.1 loaded
        obtain ⟨fields, given, fits⟩ := decode_settings_iff.1 decoded
        exact ⟨⟨text, fields, found, given, fits⟩, valid⟩
  · rintro ⟨⟨text, fields, found, given, fits⟩, valid⟩
    rw [readText_eq_ok_iff.2 ⟨text, rfl, found⟩]
    simp only [decode_settings_iff.2 ⟨fields, given, fits⟩]
    exact validate_eq_ok_iff.2 ⟨rfl, valid⟩

private theorem settingsFields_nil {s : Settings} : SettingsFields [] s ↔ s = .standard := by
  have absent (k : Kind) (key : String) (absent x : k.Value) : MayGive k [] key absent x ↔ x = absent := by
    simp [MayGive, Gives, eq_comm]
  constructor
  · rintro ⟨storePath, logLevel, prompt, workerAddr, sshUser, sshPort⟩
    rw [absent] at storePath logLevel prompt workerAddr sshUser sshPort
    cases s
    subst storePath logLevel prompt workerAddr sshUser sshPort
    rfl
  · rintro rfl
    constructor <;> exact (absent _ _ _ _).2 rfl

private theorem standard_valid : Settings.standard.Valid where
  storePath := by decide
  logLevel := by decide
  workerAddr := isAddress_iff.1 (by decide)
  sshUser := isBlankText_eq_false_iff.1 (by decide)
  sshPort := by decide

theorem resolve_eq_ok_iff {tree : Tree} {named : Option String} {s : Settings} :
    Settings.resolve tree named = .ok s ↔ OwnSettings tree named s ∧ s.Valid := by
  have loaded {path : String} (used : usedFile tree named = some path) :
      Settings.load tree path = .ok s ↔ OwnSettings tree named s ∧ s.Valid := by
    rw [load_eq_ok_iff, and_congr_left_iff]
    intro valid
    constructor
    · rintro ⟨text, fields, found, given, fits⟩
      exact ⟨fields, .file used found given, fits⟩
    · rintro ⟨fields, from_file, fits⟩
      cases from_file with
      | file used' found given =>
        rw [used] at used'
        cases used'
        exact ⟨_, _, found, given, fits⟩
      | nothing none => rw [used] at none; cases none
  cases named with
  | some path => exact loaded rfl
  | none =>
    rw [Settings.resolve]
    split
    · next there => exact loaded (if_pos there)
    · next missing =>
      have none : usedFile tree none = none := if_neg missing
      constructor
      · rintro ⟨⟩
        exact ⟨⟨[], .nothing none, settingsFields_nil.2 rfl⟩, standard_valid⟩
      · rintro ⟨⟨fields, from_file, fits⟩, -⟩
        cases from_file with
        | file used => rw [none] at used; cases used
        | nothing => rw [settingsFields_nil.1 fits]

private theorem aborted_of_resolve {tree : Tree} {named : Option String} {cut : BadCut}
    (aborted : Settings.resolve tree named = .error (.aborted cut)) :
    ∃ own, OwnSettings tree named own ∧ validateFilter own.logLevel = .error (.badCut cut) := by
  have loaded {path : String} (used : usedFile tree named = some path)
      (aborted : Settings.load tree path = .error (.aborted cut)) :
      ∃ own, OwnSettings tree named own ∧ validateFilter own.logLevel = .error (.badCut cut) := by
    rw [Settings.load] at aborted
    split at aborted
    · cases aborted
    · next bytes read =>
      obtain ⟨text, rfl, found⟩ := readText_eq_ok_iff.1 read
      split at aborted
      · cases aborted
      · next own decoded =>
        obtain ⟨fields, given, fits⟩ := decode_settings_iff.1 decoded
        exact ⟨own, ⟨fields, .file used found given, fits⟩, aborted_of_validate aborted⟩
  cases named with
  | some path => exact loaded rfl aborted
  | none =>
    rw [Settings.resolve] at aborted
    split at aborted
    · next there => exact loaded (if_pos there) aborted
    · cases aborted

/-- Settings with the store that arguments name, if they name one. -/
def Settings.withStore (s : Settings) : Option String → Settings
  | some path => { s with storePath := path }
  | none => s

end ClusterRegister

namespace ClusterRegister.Program

open ClusterRegister.Files ClusterRegister.Json ClusterRegister.LogFilter ClusterRegister.Record

/-- Arguments that name no empty path. -/
structure Arguments.NamesPaths (a : Arguments) : Prop where
  config : a.config ≠ some ""
  store : a.store ≠ some ""

theorem Arguments.NamesPaths.settle {a settled : Arguments} {opt : Opt} {value : Option String} (names : a.NamesPaths)
    (ok : a.settle opt value = .ok settled) : settled.NamesPaths := by
  cases value with
  | none => cases ok
  | some value =>
    obtain ⟨_, ok⟩ := ok_of_guard ok
    obtain ⟨not_empty, same⟩ := ok_of_guard ok
    cases same
    cases opt with
    | config => exact ⟨fun empty => not_empty ⟨Option.some.inj empty, by decide⟩, names.store⟩
    | store => exact ⟨names.config, fun empty => not_empty ⟨Option.some.inj empty, by decide⟩⟩
    | logLevel => exact ⟨names.config, names.store⟩

theorem Arguments.NamesPaths.finish {p : Progress} {a : Arguments} (names : p.settled.NamesPaths)
    (ok : p.finish = .ok a) : a.NamesPaths := by
  rw [Progress.finish] at ok
  split at ok
  · cases ok
    exact names
  · exact names.settle ok

/-- Arguments that are read name no empty path, if those that were settled before do not. -/
theorem Arguments.NamesPaths.readWords {words : List String} {p : Progress} {a : Arguments}
    (names : p.settled.NamesPaths) (ok : readWords p words = .ok a) : a.NamesPaths := by
  induction words generalizing p with
  | nil => exact names.finish ok
  | cons word rest ih =>
    rw [Program.readWords] at ok
    split at ok
    · obtain ⟨settled, finished, same⟩ := bind_eq_ok ok
      cases same
      have kept := names.finish finished
      exact ⟨kept.config, kept.store⟩
    · obtain ⟨settled, finished, ok⟩ := bind_eq_ok ok
      obtain ⟨again, valued, ok⟩ := bind_eq_ok ok
      exact ih ((names.finish finished).settle valued) ok
    · obtain ⟨settled, finished, ok⟩ := bind_eq_ok ok
      exact ih (names.finish finished) ok
    · obtain ⟨settled, finished, ok⟩ := bind_eq_ok ok
      cases ok
    · cases ok
    · split at ok
      · exact ih (p := ⟨p.settled, some (_, some word)⟩) names ok
      · obtain ⟨settled, finished, same⟩ := bind_eq_ok ok
        cases same
        have kept := names.finish finished
        exact ⟨kept.config, kept.store⟩

section Run

variable {tree : Tree} {words : List String} {a : Arguments}

private theorem effectiveSettings_eq (tree : Tree) (a : Arguments) :
    effectiveSettings tree a = (Settings.resolve tree a.config).map fun own => own.withStore a.store := by
  rw [effectiveSettings]
  cases Settings.resolve tree a.config with
  | error e => rfl
  | ok own => cases a.store <;> rfl

theorem effectiveSettings_eq_ok_iff {s : Settings} :
    effectiveSettings tree a = .ok s ↔
      ∃ own, OwnSettings tree a.config own ∧ own.Valid ∧ s = own.withStore a.store := by
  rw [effectiveSettings_eq]
  constructor
  · intro effective
    cases resolved : Settings.resolve tree a.config with
    | error e => rw [resolved] at effective; cases effective
    | ok own =>
      rw [resolved] at effective
      cases effective
      obtain ⟨taken, valid⟩ := resolve_eq_ok_iff.1 resolved
      exact ⟨own, taken, valid, rfl⟩
  · rintro ⟨own, taken, valid, rfl⟩
    rw [resolve_eq_ok_iff.2 ⟨taken, valid⟩]
    rfl

private theorem effectiveSettings_fails (invalid : ∀ own, OwnSettings tree a.config own → ¬ own.Valid) :
    ∃ e, effectiveSettings tree a = .error e := by
  cases effective : effectiveSettings tree a with
  | error e => exact ⟨e, rfl⟩
  | ok s =>
    obtain ⟨own, taken, valid, -⟩ := effectiveSettings_eq_ok_iff.1 effective
    exact absurd valid (invalid own taken)

/-- The settings of a run are its own ones, which are valid by themselves, with the store that the arguments name; and
these are valid again. No run has settings if the named file has no text, or if its own settings are not valid or
cannot be read, whatever store the arguments name. The check only aborts where the one of the log filter does. -/
theorem settings_layered (accepted : Arguments.ofWords words = .ok a) :
    (∀ s, effectiveSettings tree a = .ok s ↔
      ∃ own, OwnSettings tree a.config own ∧ own.Valid ∧ s = own.withStore a.store) ∧
    (∀ s, effectiveSettings tree a = .ok s → s.Valid) ∧
    (∀ path, a.config = some path → (∀ text, ¬ HasText tree path text) → ∃ e, effectiveSettings tree a = .error e) ∧
    ((∀ own, OwnSettings tree a.config own → ¬ own.Valid) → ∃ e, effectiveSettings tree a = .error e) ∧
    ∀ cut, effectiveSettings tree a = .error (.aborted cut) →
      ∃ own, OwnSettings tree a.config own ∧ validateFilter own.logLevel = .error (.badCut cut) := by
  refine ⟨fun s => effectiveSettings_eq_ok_iff, ?valid, ?unreadable, effectiveSettings_fails, ?aborted⟩
  case valid =>
    intro s effective
    have initial : Progress.initial.settled.NamesPaths := ⟨by decide, by decide⟩
    have names := initial.readWords accepted
    obtain ⟨own, -, valid, rfl⟩ := effectiveSettings_eq_ok_iff.1 effective
    cases store : a.store with
    | none => exact valid
    | some path =>
      have some_path : path ≠ "" := fun empty => names.store (by rw [store, empty])
      exact ⟨some_path, valid.logLevel, valid.workerAddr, valid.sshUser, valid.sshPort⟩
  case unreadable =>
    intro path named no_text
    refine effectiveSettings_fails fun own taken => ?_
    obtain ⟨fields, from_file, -⟩ := taken
    rw [named] at from_file
    cases from_file with
    | file used found => cases used; exact absurd found (no_text _)
    | nothing none => cases none
  case aborted =>
    intro cut aborted
    rw [effectiveSettings_eq] at aborted
    cases resolved : Settings.resolve tree a.config with
    | ok own => rw [resolved] at aborted; cases aborted
    | error e =>
      rw [resolved] at aborted
      cases aborted
      exact aborted_of_resolve resolved

/-- A file with settings that names a store and the prompt, in this order. -/
def sparse : ObjectText where
  lead := []
  inside := []
  members :=
    .more [] (unescaped "store_path") [] [.space] (.string (unescaped "a")) []
      (.more [.space] (unescaped "prompt") [] [.space] (.string (unescaped "> ")) [] .none)
  trail := [.lineFeed]

def sparseFields : List (String × Json.Value) :=
  [("store_path", .string (unescaped "a")), ("prompt", .string (unescaped "> "))]

/-- A tree with nothing but a file of settings under the usual name. -/
def sparseTree : Tree :=
  ⟨[(["work"], .directory), (["work", "gmha.json"], .file (Utf8.encode sparse.text))], ["work"], []⟩

theorem store_overridden :
    sparse.text = "\x7b\"store_path\": \"a\", \"prompt\": \"> \"\x7d\n".toList ∧
      Arguments.ofWords ["--store=b"] = .ok ⟨none, some "b", none, []⟩ ∧
      effectiveSettings sparseTree ⟨none, some "b", none, []⟩ =
        .ok { Settings.standard with storePath := "b", prompt := "> " } := by
  refine ⟨by decide, by decide, ((settings_layered (by decide : Arguments.ofWords ["--store=b"] = _)).1 _).2 ?_⟩
  refine ⟨{ Settings.standard with storePath := "a", prompt := "> " }, ⟨sparseFields, ?_, ?_⟩, ?_, rfl⟩
  · have found : HasText sparseTree "gmha.json" sparse.text := by rfl
    exact .file (by decide : _ = some "gmha.json") found ⟨.object sparse (by rfl), by decide⟩
  · have absent {k : Kind} {key : String} (x : k.Value) (other : key ≠ "store_path" ∧ key ≠ "prompt") :
        MayGive k sparseFields key x x :=
      .inr ⟨by simp [sparseFields, other], rfl⟩
    constructor
    · exact .inl ⟨.string (unescaped "a"), by simp [sparseFields], by decide⟩
    · exact absent _ (by decide)
    · exact .inl ⟨.string (unescaped "> "), by simp [sparseFields], by decide⟩
    · exact absent _ (by decide)
    · exact absent _ (by decide)
    · exact absent _ (by decide)
  · exact ⟨by decide, standard_valid.logLevel, standard_valid.workerAddr, standard_valid.sshUser, standard_valid.sshPort⟩

end Run

end ClusterRegister.Program
