import ClusterRegister.Line.Request
import ClusterRegister.Proofs.Grammar
import ClusterRegister.Proofs.Objections
import ClusterRegister.Proofs.Timestamps
import Mathlib.Data.Nat.Digits.Defs

/-!
# Checks of flags

What may stand against the flags of a line, in an order of precedence, and the requests that lines come to. On any flags
the first objection that applies rejects the line, and a line without objections comes to the request that its flags
spell out (`flags_checked_in_order`).
-/

namespace ClusterRegister.Line

open ClusterRegister.Text

/-- A flag has a value that counts. -/
def Given (p : Parsed) (key value : String) : Prop := p.flags.get? key = some value ∧ value ≠ ""

/-- A flag is missing or has the empty value. -/
def Absent (p : Parsed) (key : String) : Prop := ∀ value, ¬ Given p key value

/-- Digits, each with its value, and the number that they denote. -/
def Denotes (digits : List Char) (n : Nat) : Prop :=
  ∃ values : List Nat, List.Forall₂ (fun d v => v < 10 ∧ d.toNat = '0'.toNat + v) digits values ∧
    n = Nat.ofDigits 10 values.reverse

/-- A number in digits, any zeros in front included, after a plus sign or without. -/
def Unsigned (cs : List Char) (n : Nat) : Prop :=
  ∃ sign digits, cs = sign ++ digits ∧ (sign = [] ∨ sign = ['+']) ∧ digits ≠ [] ∧ Denotes digits n

/-- The text of a port: a number from 1 to 65535, with blanks around it or without. -/
def PortText (text : String) (n : Nat) : Prop :=
  ∃ front number back, text.toList = front ++ number ++ back ∧ front.all isBlank = true ∧ back.all isBlank = true ∧
    Unsigned number n ∧ 1 ≤ n ∧ n ≤ 65535

/-- What a flag gives that can be left out. -/
def MayGive (p : Parsed) (key : String) : Option String → Prop
  | some value => Given p key value
  | none => Absent p key

/-- The port that a flag gives that can be left out. -/
def MayGivePort (p : Parsed) (key : String) : Option UInt16 → Prop
  | some port => ∃ text, Given p key text ∧ PortText text port.toNat
  | none => Absent p key

/-- The role that a flag gives: one that it names in any case of letters, and a slave without it. -/
def GivesRole (p : Parsed) (key : String) (role : Role) : Prop :=
  (∃ text, Given p key text ∧ SameWord text role.name) ∨ (Absent p key ∧ role = .slave)

/-- The objections against the flags of lines of each shape, with their ranks: those of lower rank take precedence. -/
inductive FlagObjection (p : Parsed) : Shape → Nat → Rejection → Prop
  | noId : Absent p "id" → FlagObjection p .clusterAdd 0 ⟨.clusterAdd, .missing "id"⟩
  | noIp : Absent p "ip" → FlagObjection p .hostAdd 0 ⟨.hostAdd, .missing "ip"⟩
  | badSshPort {text : String} : Given p "ssh-port" text → (∀ n, ¬ PortText text n) →
    FlagObjection p .hostAdd 1 ⟨.hostAdd, .badPort "ssh-port" text⟩
  | noHost : Absent p "host" → FlagObjection p .instanceAdd 0 ⟨.instanceAdd, .missing "host"⟩
  | noPort : Absent p "port" → FlagObjection p .instanceAdd 1 ⟨.instanceAdd, .missing "port"⟩
  | badPort {text : String} : Given p "port" text → (∀ n, ¬ PortText text n) →
    FlagObjection p .instanceAdd 2 ⟨.instanceAdd, .badPort "port" text⟩
  | badRole {text : String} : Given p "role" text → (∀ role : Role, ¬ SameWord text role.name) →
    FlagObjection p .instanceAdd 3 ⟨.instanceAdd, .badRole text⟩

/-- The rejection of the first objection that applies. -/
def FirstFlagObjection (p : Parsed) (r : Rejection) : Prop :=
  ∃ rank, FlagObjection p p.shape rank r ∧ ∀ lower < rank, ∀ other, ¬ FlagObjection p p.shape lower other

/-- The requests that lines of each shape spell out. -/
inductive SpellsOut (p : Parsed) : Shape → Request → Prop
  | nothing : SpellsOut p .blank .nothing
  | exit : SpellsOut p .exit .exit
  | help : SpellsOut p .help .help
  | unknown : SpellsOut p .unknown .unknown
  | clusterAlone : SpellsOut p .clusterAlone (.usage .general)
  | clusterNoScope : SpellsOut p .clusterNoScope (.usage .general)
  | hostNoVerb : SpellsOut p .hostNoVerb (.usage .general)
  | instanceNoVerb : SpellsOut p .instanceNoVerb (.usage .general)
  | unknownScope : SpellsOut p .unknownScope (.usage .general)
  | clusterShowNoId : SpellsOut p .clusterShowNoId (.usage .clusterShow)
  | clusterList : SpellsOut p .clusterList .clusterList
  | clusterShow : SpellsOut p .clusterShow (.clusterShow p.clusterId)
  | hostList : SpellsOut p .hostList (.hostList p.clusterId)
  | instanceList : SpellsOut p .instanceList (.instanceList p.clusterId)
  | clusterAdd {id : String} {listen : Option String} : Given p "id" id → MayGive p "listen" listen →
    SpellsOut p .clusterAdd (.clusterAdd id listen)
  | hostAdd {ip : String} {user : Option String} {port : Option UInt16} : Given p "ip" ip →
    MayGive p "ssh-user" user → MayGivePort p "ssh-port" port →
    SpellsOut p .hostAdd (.hostAdd p.clusterId ip user port)
  | instanceAdd {host text : String} {port : UInt16} {role : Role} {master : Option String} : Given p "host" host →
    Given p "port" text → PortText text port.toNat → GivesRole p "role" role → MayGive p "master" master →
    SpellsOut p .instanceAdd (.instanceAdd p.clusterId host port role master)

/-- The flags that a shape has a use for. -/
def Shape.flagKeys : Shape → List String
  | .clusterAdd => ["id", "listen"]
  | .hostAdd => ["ip", "ssh-user", "ssh-port"]
  | .instanceAdd => ["host", "port", "role", "master"]
  | _ => []

/-- Lines that differ in flags at most that their shape has no use for. -/
structure GivesAlike (p q : Parsed) : Prop where
  shape : p.shape = q.shape
  clusterId : p.clusterId = q.clusterId
  flags : ∀ key ∈ p.shape.flagKeys, ∀ value, Given p key value ↔ Given q key value

/-! ### Numbers -/

section Numbers

variable {cs digits : List Char} {n : Nat}

theorem digit_iff {d : Char} : d.isDigit = true ↔ '0'.toNat ≤ d.toNat ∧ d.toNat < '0'.toNat + 10 := by
  simp [Char.isDigit, UInt32.le_iff_toNat_le, Nat.lt_succ_iff]

private theorem decimalValue_cons (d : Char) (ds : List Char) :
    decimalValue (d :: ds) = 10 ^ ds.length * (d.toNat - '0'.toNat) + decimalValue ds := by
  rw [decimalValue, Nat.ofDigitChars_cons, Nat.ofDigitChars_eq_ofDigitChars_zero, Nat.mul_zero, Nat.zero_add]
  rfl

theorem denotes_iff : Denotes digits n ↔ digits.all Char.isDigit = true ∧ n = decimalValue digits := by
  constructor
  · rintro ⟨values, each, rfl⟩
    -- the first digit counts most, and so comes last among the values in reverse
    induction each with
    | nil => exact ⟨rfl, rfl⟩
    | @cons d v ds vs here each ih =>
      obtain ⟨small, code⟩ := here
      obtain ⟨all, value⟩ := ih
      have digit : d.isDigit = true := digit_iff.2 (by omega)
      refine ⟨by rw [List.all_cons, digit, all]; rfl, ?_⟩
      rw [decimalValue_cons, ← value, List.reverse_cons, Nat.ofDigits_append, Nat.ofDigits_singleton,
        List.length_reverse, each.length_eq, code, Nat.add_sub_cancel_left, Nat.add_comm]
  · rintro ⟨all, rfl⟩
    refine ⟨digits.map fun d => d.toNat - '0'.toNat, ?_, ?_⟩
    · rw [List.forall₂_map_right_iff, List.forall₂_same]
      intro d member
      have bounds := digit_iff.1 (List.all_eq_true.1 all d member)
      omega
    · clear all
      induction digits with
      | nil => rfl
      | cons d ds ih =>
        rw [decimalValue_cons, ih, List.map_cons, List.reverse_cons, Nat.ofDigits_append, Nat.ofDigits_singleton,
          List.length_reverse, List.length_map, Nat.add_comm]

/-- The number that digits denote, if all characters are digits and there is one at least. -/
theorem digits_eq_some_iff :
    (if digits ≠ [] ∧ digits.all Char.isDigit = true then some (decimalValue digits) else none) = some n ↔
      digits ≠ [] ∧ Denotes digits n := by
  rw [Option.ite_none_right_eq_some, Option.some_inj, denotes_iff, and_assoc, eq_comm (a := n)]

private theorem unsigned?_without_plus (no_plus : ∀ ds, cs ≠ '+' :: ds) :
    unsigned? cs = if cs ≠ [] ∧ cs.all Char.isDigit = true then some (decimalValue cs) else none := by
  simp only [unsigned?]

theorem unsigned?_eq_some_iff : unsigned? cs = some n ↔ Unsigned cs n := by
  constructor
  · intro read
    by_cases plus : ∃ ds, cs = '+' :: ds
    · obtain ⟨ds, rfl⟩ := plus
      exact ⟨['+'], ds, rfl, .inr rfl, digits_eq_some_iff.1 read⟩
    · rw [unsigned?_without_plus fun ds same => plus ⟨ds, same⟩] at read
      exact ⟨[], cs, rfl, .inl rfl, digits_eq_some_iff.1 read⟩
  · rintro ⟨sign, digits, rfl, rfl | rfl, denoted⟩
    · have no_plus : ∀ ds, digits ≠ '+' :: ds := by
        rintro ds rfl
        have all := (denotes_iff.1 denoted.2).1
        simp at all
      rw [List.nil_append, unsigned?_without_plus no_plus]
      exact digits_eq_some_iff.2 denoted
    · exact digits_eq_some_iff.2 denoted

theorem port?_eq_some_iff {port : UInt16} :
    port? cs = some port ↔ Unsigned cs port.toNat ∧ 1 ≤ port.toNat ∧ port.toNat ≤ 65535 := by
  rw [← unsigned?_eq_some_iff, port?]
  cases unsigned? cs with
  | none => simp
  | some n =>
    simp only [Option.ite_none_right_eq_some, Option.some_inj]
    constructor
    · rintro ⟨⟨positive, small⟩, rfl⟩
      rw [UInt16.toNat_ofNat_of_lt' small]
      omega
    · rintro ⟨rfl, positive, small⟩
      exact ⟨by omega, UInt16.ofNat_toNat⟩

end Numbers

section Blanks

variable {cs : List Char} {n : Nat}

theorem Unsigned.solid (number : Unsigned cs n) : ∀ c ∈ cs, isBlank c = false := by
  obtain ⟨sign, digits, rfl, sign, _, denotes⟩ := number
  have all := (denotes_iff.1 denotes).1
  intro c member
  rcases List.mem_append.1 member with front | digit
  · rcases sign with rfl | rfl
    · cases front
    · rw [List.mem_singleton.1 front]
      decide
  · exact Calendar.isBlank_of_isDigit (List.all_eq_true.1 all c digit)

private theorem trim_of_solid (solid : ∀ c ∈ cs, isBlank c = false) : trim cs = cs := by
  have start {ds : List Char} (solid : ∀ c ∈ ds, isBlank c = false) : ds.dropWhile isBlank = ds := by
    cases ds with
    | nil => rfl
    | cons d ds => rw [List.dropWhile_cons_of_neg (by simp [solid d])]
  rw [trim, trimStart, start solid, trimEnd, start fun c member => solid c (List.mem_reverse.1 member),
    List.reverse_reverse]

/-- Trimming takes blanks away at both ends and nothing else. -/
theorem exists_blanks_around (cs : List Char) :
    ∃ front back, cs = front ++ trim cs ++ back ∧ front.all isBlank = true ∧ back.all isBlank = true := by
  refine ⟨cs.takeWhile isBlank, ((trimStart cs).reverse.takeWhile isBlank).reverse, ?_, List.all_takeWhile, ?_⟩
  · rw [trim, trimEnd, List.append_assoc, ← List.reverse_append, List.takeWhile_append_dropWhile, List.reverse_reverse,
      trimStart, List.takeWhile_append_dropWhile]
  · rw [List.all_reverse]
    exact List.all_takeWhile

theorem portText_iff {text : String} {port : UInt16} :
    PortText text port.toNat ↔ port? (trim text.toList) = some port := by
  rw [port?_eq_some_iff]
  constructor
  · rintro ⟨front, number, back, spelled, before, after, unsigned, range⟩
    rw [spelled, trim_around before after, trim_of_solid unsigned.solid]
    exact ⟨unsigned, range⟩
  · intro read
    obtain ⟨front, back, spelled, before, after⟩ := exists_blanks_around text.toList
    exact ⟨front, _, back, spelled, before, after, read⟩

/-- No port text is beyond the range of the numbers that requests carry. -/
theorem PortText.exists_port {text : String} (spelled : PortText text n) : ∃ port : UInt16, n = port.toNat := by
  obtain ⟨_, _, _, _, _, _, _, _, small⟩ := spelled
  exact ⟨UInt16.ofNat n, (UInt16.toNat_ofNat_of_lt' (by rw [UInt16.size]; omega)).symm⟩

end Blanks

section Flag

variable {p : Parsed} {key value text : String}

theorem given_iff : Given p key value ↔ p.flag key = some value := Parsed.flag_eq_some_iff.symm

theorem absent_iff : Absent p key ↔ p.flag key = none := by
  simp only [Absent, given_iff, Option.eq_none_iff_forall_ne_some, ne_eq]

theorem mayGive_iff {given : Option String} : MayGive p key given ↔ p.flag key = given := by
  cases given with
  | none => exact absent_iff
  | some value => exact given_iff

private theorem mayGive_flag (p : Parsed) (key : String) : MayGive p key (p.flag key) := mayGive_iff.2 rfl

private theorem given_or_absent (p : Parsed) (key : String) : (∃ value, Given p key value) ∨ Absent p key := by
  by_cases given : ∃ value, Given p key value
  · exact .inl given
  · exact .inr fun value here => given ⟨value, here⟩

theorem Given.unique {other : String} (one : Given p key value) (again : Given p key other) : value = other :=
  Option.some_inj.1 (one.1.symm.trans again.1)

private theorem required_of_given (given : Given p key value) : required p key = .ok value := by
  rw [required, given_iff.1 given]

private theorem required_of_absent (absent : Absent p key) : required p key = .error (.missing key) := by
  rw [required, absent_iff.1 absent]

private theorem portFlag_of_portText {port : UInt16} (spelled : PortText text port.toNat) :
    portFlag key text = .ok port := by
  rw [portFlag, portText_iff.1 spelled]

private theorem portFlag_of_not_portText (bad : ∀ n, ¬ PortText text n) :
    portFlag key text = .error (.badPort key text) := by
  have unread : port? (trim text.toList) = none :=
    Option.eq_none_iff_forall_ne_some.2 fun port read => bad _ (portText_iff.2 read)
  rw [portFlag, unread]

private theorem portText_or_not (text : String) :
    (∃ port : UInt16, PortText text port.toNat) ∨ ∀ n, ¬ PortText text n := by
  by_cases spelled : ∃ n, PortText text n
  · obtain ⟨n, spelled⟩ := spelled
    obtain ⟨port, rfl⟩ := spelled.exists_port
    exact .inl ⟨port, spelled⟩
  · exact .inr fun n here => spelled ⟨n, here⟩

private theorem mayGivePort_or_not (p : Parsed) (key : String) :
    (∃ port, MayGivePort p key port) ∨ ∃ text, Given p key text ∧ ∀ n, ¬ PortText text n := by
  rcases given_or_absent p key with ⟨text, given⟩ | absent
  · rcases portText_or_not text with ⟨port, spelled⟩ | bad
    · exact .inl ⟨some port, text, given, spelled⟩
    · exact .inr ⟨text, given, bad⟩
  · exact .inl ⟨none, absent⟩

theorem MayGivePort.not_bad {port : Option UInt16} (gives : MayGivePort p key port) (given : Given p key text)
    (bad : ∀ n, ¬ PortText text n) : False := by
  cases port with
  | none => exact gives _ given
  | some port =>
    obtain ⟨other, here, spelled⟩ := gives
    exact bad _ (here.unique given ▸ spelled)

theorem sameWord_name_iff {role : Role} : SameWord text role.name ↔ Role.ofText text = .ok role := by
  rw [sameWord_lower (by cases role <;> decide), ← Role.ofName?_eq_some_iff, Role.ofText]
  cases Role.ofName? (asciiLower text) with
  | none => simp
  | some named => simp

private theorem roleFlag_of_gives {role : Role} (gives : GivesRole p key role) : roleFlag (p.flag key) = .ok role := by
  rcases gives with ⟨text, given, named⟩ | ⟨absent, rfl⟩
  · rw [given_iff.1 given, roleFlag, sameWord_name_iff.1 named]
  · rw [absent_iff.1 absent, roleFlag]

private theorem roleFlag_of_not_named (given : Given p key text) (bad : ∀ role : Role, ¬ SameWord text role.name) :
    roleFlag (p.flag key) = .error (.badRole text) := by
  rw [given_iff.1 given, roleFlag]
  cases named : Role.ofText text with
  | ok role => exact absurd (sameWord_name_iff.2 named) (bad role)
  | error name => rfl

private theorem givesRole_or_not (p : Parsed) (key : String) :
    (∃ role, GivesRole p key role) ∨ ∃ text, Given p key text ∧ ∀ role : Role, ¬ SameWord text role.name := by
  rcases given_or_absent p key with ⟨text, given⟩ | absent
  · by_cases named : ∃ role : Role, SameWord text role.name
    · obtain ⟨role, named⟩ := named
      exact .inl ⟨role, .inl ⟨text, given, named⟩⟩
    · exact .inr ⟨text, given, fun role here => named ⟨role, here⟩⟩
  · exact .inl ⟨.slave, .inr ⟨absent, rfl⟩⟩

theorem GivesRole.not_bad {role : Role} (gives : GivesRole p key role) (given : Given p key text)
    (bad : ∀ role : Role, ¬ SameWord text role.name) : False := by
  rcases gives with ⟨other, here, named⟩ | ⟨absent, _⟩
  · exact bad _ (here.unique given ▸ named)
  · exact absent _ given

end Flag

/-! ### A whole line -/

section Line

variable {p : Parsed}

/-- What a line spells out is what it comes to. -/
theorem SpellsOut.ofParsed {request : Request} (spelled : SpellsOut p p.shape request) :
    Request.ofParsed p = .ok request := by
  obtain ⟨shape, clusterId, flags⟩ := p
  cases spelled with
  | clusterAdd id listen =>
    rw [Request.ofParsed, checkClusterAdd, required_of_given id, mayGive_iff.1 listen]
    rfl
  | @hostAdd ip user port ip_given user_given port_given =>
    rw [Request.ofParsed, checkHostAdd, required_of_given ip_given, mayGive_iff.1 user_given]
    cases port with
    | none =>
      rw [absent_iff.1 port_given]
      rfl
    | some port =>
      obtain ⟨text, given, spelled⟩ := port_given
      simp only [given_iff.1 given, portFlag_of_portText spelled]
      rfl
  | instanceAdd host port spelled role master =>
    rw [Request.ofParsed, checkInstanceAdd, required_of_given host, required_of_given port,
      roleFlag_of_gives role, mayGive_iff.1 master]
    simp only [bind, Except.bind, portFlag_of_portText spelled]
    rfl
  | _ => rfl

/-- A line has a first objection, which rejects it, or it has none and spells out a request. -/
def Decided (p : Parsed) : Prop :=
  (∃ r, FirstFlagObjection p r ∧ Request.ofParsed p = .error r) ∨
    ((∀ rank r, ¬ FlagObjection p p.shape rank r) ∧ ∃ request, SpellsOut p p.shape request)

private theorem clusterAdd_decided (clusterId : String) (flags : Flags) : Decided ⟨.clusterAdd, clusterId, flags⟩ := by
  rcases given_or_absent ⟨.clusterAdd, clusterId, flags⟩ "id" with ⟨id, given⟩ | absent
  · refine .inr ⟨?_, _, .clusterAdd given (mayGive_flag _ _)⟩
    rintro rank r objection
    cases objection with
    | noId absent => exact absent _ given
  · refine .inl ⟨_, ⟨0, .noId absent, fun lower below => absurd below (Nat.not_lt_zero lower)⟩, ?_⟩
    rw [Request.ofParsed, checkClusterAdd, required_of_absent absent]
    rfl

private theorem hostAdd_decided (clusterId : String) (flags : Flags) : Decided ⟨.hostAdd, clusterId, flags⟩ := by
  rcases given_or_absent ⟨.hostAdd, clusterId, flags⟩ "ip" with ⟨ip, given⟩ | absent
  · rcases mayGivePort_or_not ⟨.hostAdd, clusterId, flags⟩ "ssh-port" with ⟨port, port_given⟩ | ⟨text, text_given, bad⟩
    · refine .inr ⟨?_, _, .hostAdd given (mayGive_flag _ _) port_given⟩
      rintro rank r objection
      cases objection with
      | noIp absent => exact absent _ given
      | badSshPort text_given bad => exact port_given.not_bad text_given bad
    · refine .inl ⟨_, ⟨1, .badSshPort text_given bad, ?_⟩, ?_⟩
      · rintro lower below other objection
        cases objection with
        | noIp absent => exact absent _ given
        | badSshPort _ _ => omega
      · rw [Request.ofParsed, checkHostAdd, required_of_given given, given_iff.1 text_given]
        simp only [bind, Except.bind, portFlag_of_not_portText bad]
        rfl
  · refine .inl ⟨_, ⟨0, .noIp absent, fun lower below => absurd below (Nat.not_lt_zero lower)⟩, ?_⟩
    rw [Request.ofParsed, checkHostAdd, required_of_absent absent]
    rfl

-- the flags of an instance are checked one after the other, and each one that is right rules a rank of objections out
section Instance

variable {host text : String} {port : UInt16} {role : Role} {rank : Nat} {r : Rejection}

theorem FlagObjection.past_host (given : Given p "host" host) (objection : FlagObjection p .instanceAdd rank r) :
    1 ≤ rank := by
  cases objection with
  | noHost absent => exact absurd given (absent host)
  | _ => omega

theorem FlagObjection.past_port (host_given : Given p "host" host) (given : Given p "port" text)
    (objection : FlagObjection p .instanceAdd rank r) : 2 ≤ rank := by
  have later := objection.past_host host_given
  cases objection with
  | noPort absent => exact absurd given (absent text)
  | _ => omega

theorem FlagObjection.past_number (host_given : Given p "host" host) (given : Given p "port" text)
    (spelled : PortText text port.toNat) (objection : FlagObjection p .instanceAdd rank r) : 3 ≤ rank := by
  have later := objection.past_port host_given given
  cases objection with
  | badPort again bad => exact absurd (again.unique given ▸ spelled) (bad _)
  | _ => omega

theorem FlagObjection.past_role (host_given : Given p "host" host) (given : Given p "port" text)
    (spelled : PortText text port.toNat) (gives : GivesRole p "role" role) : ¬ FlagObjection p .instanceAdd rank r := by
  intro objection
  have later := objection.past_number host_given given spelled
  cases objection with
  | badRole named bad => exact gives.not_bad named bad
  | _ => omega

end Instance

private theorem instanceAdd_decided (clusterId : String) (flags : Flags) :
    Decided ⟨.instanceAdd, clusterId, flags⟩ := by
  rcases given_or_absent ⟨.instanceAdd, clusterId, flags⟩ "host" with ⟨host, host_given⟩ | absent
  · rcases given_or_absent ⟨.instanceAdd, clusterId, flags⟩ "port" with ⟨text, text_given⟩ | absent
    · rcases portText_or_not text with ⟨port, spelled⟩ | bad
      · rcases givesRole_or_not ⟨.instanceAdd, clusterId, flags⟩ "role" with ⟨role, gives⟩ | ⟨name, name_given, bad⟩
        · exact .inr ⟨fun rank r => FlagObjection.past_role host_given text_given spelled gives,
            _, .instanceAdd host_given text_given spelled gives (mayGive_flag _ _)⟩
        · refine .inl ⟨_, ⟨3, .badRole name_given bad, fun lower below other objection => ?_⟩, ?_⟩
          · exact absurd (objection.past_number host_given text_given spelled) (by omega)
          · rw [Request.ofParsed, checkInstanceAdd, required_of_given host_given, required_of_given text_given,
              roleFlag_of_not_named name_given bad]
            simp only [bind, Except.bind, portFlag_of_portText spelled]
            rfl
      · refine .inl ⟨_, ⟨2, .badPort text_given bad, fun lower below other objection => ?_⟩, ?_⟩
        · exact absurd (objection.past_port host_given text_given) (by omega)
        · rw [Request.ofParsed, checkInstanceAdd, required_of_given host_given, required_of_given text_given]
          simp only [bind, Except.bind, portFlag_of_not_portText bad]
          rfl
    · refine .inl ⟨_, ⟨1, .noPort absent, fun lower below other objection => ?_⟩, ?_⟩
      · exact absurd (objection.past_host host_given) (by omega)
      · rw [Request.ofParsed, checkInstanceAdd, required_of_given host_given, required_of_absent absent]
        rfl
  · refine .inl ⟨_, ⟨0, .noHost absent, fun lower below => absurd below (Nat.not_lt_zero lower)⟩, ?_⟩
    rw [Request.ofParsed, checkInstanceAdd, required_of_absent absent]
    rfl

private theorem decided (p : Parsed) : Decided p := by
  obtain ⟨shape, clusterId, flags⟩ := p
  cases shape with
  | clusterAdd => exact clusterAdd_decided clusterId flags
  | hostAdd => exact hostAdd_decided clusterId flags
  | instanceAdd => exact instanceAdd_decided clusterId flags
  | _ =>
    refine .inr ⟨?_, _, by constructor⟩
    rintro rank r objection
    cases objection

theorem FlagObjection.unique {shape : Shape} {rank : Nat} {r r' : Rejection} (one : FlagObjection p shape rank r)
    (other : FlagObjection p shape rank r') : r = r' := by
  cases one <;> cases other <;> try rfl
  case badSshPort.badSshPort given _ _ given' _ => rw [given.unique given']
  case badPort.badPort given _ _ given' _ => rw [given.unique given']
  case badRole.badRole given _ _ given' _ => rw [given.unique given']

theorem FirstFlagObjection.unique {r r' : Rejection} (one : FirstFlagObjection p r)
    (other : FirstFlagObjection p r') : r = r' :=
  Register.first_unique (R := FlagObjection p p.shape) FlagObjection.unique one other

private theorem shape_usage :
    (Parsed.ofLine AddCommand.clusterAdd.usage).shape = .clusterAdd ∧
      (Parsed.ofLine AddCommand.hostAdd.usage).shape = .hostAdd ∧
      (Parsed.ofLine AddCommand.instanceAdd.usage).shape = .instanceAdd := by
  decide +kernel

/-- The usage that a rejection comes with is that of the command which it rejects. -/
theorem FlagObjection.usage {shape : Shape} {rank : Nat} {r : Rejection} (objection : FlagObjection p shape rank r) :
    (Parsed.ofLine r.usage).shape = shape := by
  obtain ⟨cluster, host, inst⟩ := shape_usage
  cases objection with
  | noId _ => exact cluster
  | noIp _ => exact host
  | badSshPort _ _ => exact host
  | noHost _ => exact inst
  | noPort _ => exact inst
  | badPort _ _ => exact inst
  | badRole _ _ => exact inst

theorem GivesAlike.flag {q : Parsed} (alike : GivesAlike p q) : ∀ key ∈ p.shape.flagKeys, p.flag key = q.flag key := by
  intro key used
  exact Option.ext fun value => by rw [← given_iff, ← given_iff, alike.flags key used value]

/-- Flags that the shape of a line has no use for make no difference. -/
theorem GivesAlike.ofParsed {q : Parsed} (alike : GivesAlike p q) : Request.ofParsed p = Request.ofParsed q := by
  have same := alike.flag
  rw [Request.ofParsed, Request.ofParsed, ← alike.shape, ← alike.clusterId]
  cases shape : p.shape with
  | clusterAdd =>
    rw [shape] at same
    simp only [checkClusterAdd, required, same "id" (by decide), same "listen" (by decide)]
  | hostAdd =>
    rw [shape] at same
    simp only [checkHostAdd, required, alike.clusterId, same "ip" (by decide), same "ssh-user" (by decide),
      same "ssh-port" (by decide)]
  | instanceAdd =>
    rw [shape] at same
    simp only [checkInstanceAdd, required, alike.clusterId, same "host" (by decide), same "port" (by decide),
      same "role" (by decide), same "master" (by decide)]
  | _ => rfl

end Line

/-- A line fails just if there is an objection against its flags, and then with the first one and the usage of its
command; otherwise it comes to the request that its flags spell out, whatever other flags it has. -/
theorem flags_checked_in_order (p : Parsed) :
    (∀ r, Request.ofParsed p = .error r ↔ FirstFlagObjection p r) ∧
      ((∃ r, Request.ofParsed p = .error r) ↔ ∃ rank r, FlagObjection p p.shape rank r) ∧
      (∀ r, Request.ofParsed p = .error r → (Parsed.ofLine r.usage).shape = p.shape) ∧
      (∀ request, Request.ofParsed p = .ok request ↔ SpellsOut p p.shape request) ∧
      ∀ q, GivesAlike p q → Request.ofParsed p = Request.ofParsed q := by
  rcases decided p with ⟨r, first, rejected⟩ | ⟨no_objection, request, spelled⟩
  · obtain ⟨rank, objection, _⟩ := id first
    rw [rejected]
    refine ⟨fun r' => ⟨?_, ?_⟩, ⟨fun _ => ⟨rank, r, objection⟩, fun _ => ⟨r, rfl⟩⟩, ?_, fun request => ⟨?_, ?_⟩, ?_⟩
    · intro same
      cases same
      exact first
    · intro other
      rw [first.unique other]
    · intro r' same
      cases same
      exact objection.usage
    · intro accepted
      cases accepted
    · intro spelled
      rw [spelled.ofParsed] at rejected
      cases rejected
    · intro q alike
      rw [← alike.ofParsed, rejected]
  · rw [spelled.ofParsed]
    refine ⟨fun r => ⟨?_, ?_⟩, ⟨?_, ?_⟩, ?_, fun request' => ⟨?_, ?_⟩, ?_⟩
    · intro failed
      cases failed
    · rintro ⟨rank, objection, _⟩
      exact absurd objection (no_objection rank r)
    · rintro ⟨r, failed⟩
      cases failed
    · rintro ⟨rank, r, objection⟩
      exact absurd objection (no_objection rank r)
    · intro r failed
      cases failed
    · intro same
      cases same
      exact spelled
    · intro other
      rw [← other.ofParsed, spelled.ofParsed]
    · intro q alike
      rw [← alike.ofParsed, spelled.ofParsed]

/-- A port one too large, whose text is kept with its blank, beside a flag that hosts have no use for; and the largest
port, with zeros in front and blanks around it. -/
theorem largest_port_accepted :
    Request.ofParsed ⟨.hostAdd, "c", flags ["--ip=h", "--ssh-port= +65536", "--port=22"]⟩ =
        .error ⟨.hostAdd, .badPort "ssh-port" " +65536"⟩ ∧
      (Parsed.ofLine (Rejection.usage ⟨.hostAdd, .badPort "ssh-port" " +65536"⟩)).shape = .hostAdd ∧
      Request.ofParsed ⟨.hostAdd, "c", flags ["--ip=h", "--ssh-port= +65536", "--port=22"]⟩ =
        Request.ofParsed ⟨.hostAdd, "c", flags ["--ip=h", "--ssh-port= +65536"]⟩ ∧
      Request.ofParsed ⟨.instanceAdd, "c", flags ["--host=h", "--port=\t+00065535 ", "--role=MASTER"]⟩ =
        .ok (.instanceAdd "c" "h" 65535 .master none) := by
  obtain ⟨errors, _, usage, _, alike⟩ :=
    flags_checked_in_order ⟨.hostAdd, "c", flags ["--ip=h", "--ssh-port= +65536", "--port=22"]⟩
  obtain ⟨_, _, _, requests, _⟩ :=
    flags_checked_in_order ⟨.instanceAdd, "c", flags ["--host=h", "--port=\t+00065535 ", "--role=MASTER"]⟩
  have too_large : ∀ n, ¬ PortText " +65536" n := by
    intro n spelled
    obtain ⟨port, rfl⟩ := spelled.exists_port
    have unread : port? (trim " +65536".toList) = none := by decide
    rw [portText_iff, unread] at spelled
    cases spelled
  have rejected := (errors ⟨.hostAdd, .badPort "ssh-port" " +65536"⟩).2
    ⟨1, .badSshPort ⟨by decide, by decide⟩ too_large, by
      rintro lower below other objection
      cases objection with
      | noIp absent => exact absent "h" ⟨by decide, by decide⟩
      | badSshPort _ _ => omega⟩
  refine ⟨rejected, usage _ rejected, alike _ ⟨rfl, rfl, ?_⟩, (requests _).2 ?_⟩
  · have same : ∀ key ∈ Shape.hostAdd.flagKeys, (flags ["--ip=h", "--ssh-port= +65536", "--port=22"]).get? key =
        (flags ["--ip=h", "--ssh-port= +65536"]).get? key := by decide
    intro key used value
    rw [Given, Given, same key used]
  · have port : PortText "\t+00065535 " (65535 : UInt16).toNat := portText_iff.2 (by decide)
    exact .instanceAdd ⟨by decide, by decide⟩ ⟨by decide, by decide⟩ port
      (.inl ⟨"MASTER", ⟨by decide, by decide⟩, sameWord_iff.2 (by decide)⟩) (mayGive_iff.2 (by decide))

end ClusterRegister.Line
