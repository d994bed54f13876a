import SqlBuilder.Proofs.Text.Blank
import SqlBuilder.Proofs.Text.Reader
import SqlBuilder.Settings
/-!
Settings are read from texts exactly when nothing is wrong with any of them, and otherwise what is wrong first is
reported. Settings that were written as texts are read as the same settings, whatever white space stands around
the numbers.
-/
namespace SqlBuilder.Settings

open Text

-- A text stands for a number by its digits, with white space around them and perhaps a plus sign in front.
def Denotes (s : String) (n : Nat) : Prop :=
  ∃ front sign ds back, s.toList = front ++ (sign ++ ds) ++ back ∧ IsBlank front ∧ IsBlank back ∧
    (sign = [] ∨ sign = ['+']) ∧ ds ≠ [] ∧ (∀ c ∈ ds, c.isDigit = true) ∧ Nat.ofDigitChars 10 ds 0 = n

-- The settings that are numbers, each with a key, with a default, and with a bound that it stays below.
inductive Number where
  | max | min | timeout

namespace Number

def key : Number → String
  | max => maxKey
  | min => minKey
  | timeout => timeoutKey

def bound : Number → Nat
  | max | min => 2 ^ 32
  | timeout => 2 ^ 64

def default : Number → Nat
  | max => 10
  | min => 0
  | timeout => 30

def position : Number → Nat
  | max => 1
  | min => 2
  | timeout => 3

def of : Number → Settings → Nat
  | max, c => c.maxConnections.toNat
  | min, c => c.minConnections.toNat
  | timeout, c => c.acquireTimeout.toNat

end Number

-- The number that a setting takes.
inductive Gives (lookup : String → Option String) (n : Number) : Nat → Prop
  | default : lookup n.key = none → Gives lookup n n.default
  | text {s : String} {k : Nat} : lookup n.key = some s → Denotes s k → k < n.bound → Gives lookup n k

-- What can be wrong with the texts.
inductive Problem where
  | noUrl
  | unreadable (n : Number) (s : String)
  | crossed (min max : Nat)

namespace Problem

def message : Problem → String
  | noUrl => urlKey ++ " is not set"
  | unreadable n s => n.key ++ " has an invalid value `" ++ s ++ "`"
  | crossed min max => minKey ++ " (" ++ decimal min ++ ") is greater than " ++ maxKey ++ " (" ++ decimal max ++ ")"

-- Problems in the order in which they are looked for.
def position : Problem → Nat
  | noUrl => 0
  | unreadable n _ => n.position
  | crossed _ _ => 4

end Problem

inductive Has (lookup : String → Option String) : Problem → Prop
  | noUrl : (∀ s, lookup urlKey = some s → IsBlank s.toList) → Has lookup .noUrl
  | unreadable {n : Number} {s : String} : lookup n.key = some s → (∀ k, Denotes s k → n.bound ≤ k) →
    Has lookup (.unreadable n s)
  | crossed {min max : Nat} : Gives lookup .min min → Gives lookup .max max → max < min →
    Has lookup (.crossed min max)

-- The problem that is met first.
structure First (lookup : String → Option String) (p : Problem) : Prop where
  has : Has lookup p
  least : ∀ q, Has lookup q → p.position ≤ q.position

-- The settings that the texts stand for.
structure Holds (lookup : String → Option String) (c : Settings) : Prop where
  url : lookup urlKey = some c.url
  notBlank : ¬IsBlank c.url.toList
  numbers : ∀ n : Number, Gives lookup n (n.of c)
  ordered : c.minConnections ≤ c.maxConnections

-- Settings written as texts: the address as it is, and the digits of each number between white space.
structure Writes (c : Settings) (lookup : String → Option String) : Prop where
  url : lookup urlKey = some c.url
  numbers : ∀ n : Number, ∃ front back, IsBlank front ∧ IsBlank back ∧
    lookup n.key = some (String.ofList (front ++ (n.of c).repr.toList ++ back))

variable {lookup : String → Option String} {n : Number} {s : String} {k l bound : Nat} {c : Settings}
  {p q : Problem} {cs ds : List Char}

theorem ne_plus_of_isDigit {c : Char} (h : c.isDigit = true) : c ≠ '+' := by
  rintro rfl
  cases h

theorem Denotes.number?_eq (h : Denotes s k) (hk : k < bound) : number? bound s = some k := by
  obtain ⟨front, sign, ds, back, hs, hfront, hback, hsign, hne, hds, hvalue⟩ := h
  have hsolid : ∀ c ∈ sign ++ ds, isBlank c = false := by
    intro c hc
    cases List.mem_append.mp hc with
    | inl hc =>
      obtain rfl | rfl := hsign
      · cases hc
      · exact List.mem_singleton.mp hc ▸ rfl
    | inr hc => exact isBlank_of_isDigit (isDigit_iff.mpr (hds c hc))
  have htrim : trim s.toList = sign ++ ds := hs ▸ trim_append hfront hsolid hback
  have hread : natural? ds = some k := natural?_eq_some_iff.mpr ⟨hne, hds, hvalue⟩
  have hbelow : (do
      let n ← natural? ds
      if n < bound then some n else none) = some k := by
    rw [hread]
    exact if_pos hk
  rw [number?, htrim]
  obtain rfl | rfl := hsign
  case inl =>
    rw [List.nil_append]
    split
    case h_1 => exact absurd rfl (ne_plus_of_isDigit (hds '+' List.mem_cons_self))
    case h_2 => exact hbelow
  case inr => exact hbelow

theorem number?_eq_some_iff : number? bound s = some k ↔ Denotes s k ∧ k < bound := by
  constructor
  case mpr => exact fun h => h.1.number?_eq h.2
  case mp =>
    intro h
    obtain ⟨m, hm, hk⟩ := Option.bind_eq_some_iff.mp h
    split at hk
    case isFalse => cases hk
    case isTrue hlt =>
      cases hk
      obtain ⟨front, back, hfront, hback, hs⟩ := exists_trim s.toList
      refine ⟨?_, hlt⟩
      split at hm
      case h_1 ds hsign =>
        obtain ⟨hne, hds, hvalue⟩ := natural?_eq_some_iff.mp hm
        rw [hsign] at hs
        exact ⟨front, ['+'], ds, back, hs, hfront, hback, .inr rfl, hne, hds, hvalue⟩
      case h_2 =>
        obtain ⟨hne, hds, hvalue⟩ := natural?_eq_some_iff.mp hm
        exact ⟨front, [], trim s.toList, back, hs, hfront, hback, .inl rfl, hne, hds, hvalue⟩

theorem Denotes.unique (hk : Denotes s k) (hl : Denotes s l) : k = l := by
  have hread : number? (k + l + 1) s = some k := hk.number?_eq (by omega)
  exact Option.some.inj (hread.symm.trans (hl.number?_eq (by omega)))

theorem denotes_written {front back : List Char} (hfront : IsBlank front) (hback : IsBlank back) (k : Nat) :
    Denotes (String.ofList (front ++ k.repr.toList ++ back)) k := by
  obtain ⟨hne, hds, hvalue⟩ := natural?_eq_some_iff.mp (natural?_digits k)
  refine ⟨front, [], digits k, back, ?_, hfront, hback, .inl rfl, hne, hds, hvalue⟩
  rw [String.toList_ofList, ← decimal_eq_repr, decimal, String.toList_ofList, List.nil_append]

theorem Gives.lt_bound (h : Gives lookup n k) : k < n.bound := by
  cases h with
  | default => cases n <;> decide
  | text _ _ hk => exact hk

theorem Gives.unique (hk : Gives lookup n k) (hl : Gives lookup n l) : k = l := by
  cases hk with
  | default hnone =>
    cases hl with
    | default => rfl
    | text hs => cases hnone.symm.trans hs
  | text hs hk =>
    cases hl with
    | default hnone => cases hnone.symm.trans hs
    | text ht hl =>
      obtain rfl := Option.some.inj (hs.symm.trans ht)
      exact hk.unique hl

theorem Gives.not_unreadable (h : Gives lookup n k) : ¬Has lookup (.unreadable n s) := by
  rintro ⟨⟩
  case unreadable hs hno =>
    cases h with
    | default hnone => cases hnone.symm.trans hs
    | text ht hk hlt =>
      obtain rfl := Option.some.inj (hs.symm.trans ht)
      exact Nat.not_le_of_lt hlt (hno k hk)

theorem not_noUrl {url : String} (hurl : lookup urlKey = some url) (h : ¬IsBlank url.toList) : ¬Has lookup .noUrl := by
  rintro ⟨hblank⟩
  exact h (hblank url hurl)

theorem Number.position_injective : Function.Injective Number.position := by
  intro n m h
  cases n <;> cases m <;> simp_all [Number.position]

theorem Number.position_bounds (n : Number) : 0 < n.position ∧ n.position < 4 := by
  cases n <;> decide

-- There is at most one problem at each position.
theorem Has.eq_of_position (hp : Has lookup p) (hq : Has lookup q) (h : p.position = q.position) : p = q := by
  cases hp with
  | noUrl =>
    cases hq with
    | noUrl => rfl
    | @unreadable m => exact absurd h (Nat.ne_of_lt m.position_bounds.1)
    | crossed => cases h
  | @unreadable n s hs =>
    cases hq with
    | noUrl => exact absurd h (Nat.ne_of_gt n.position_bounds.1)
    | @unreadable m t ht =>
      obtain rfl := Number.position_injective h
      obtain rfl := Option.some.inj (hs.symm.trans ht)
      rfl
    | crossed => exact absurd h (Nat.ne_of_lt n.position_bounds.2)
  | crossed hmin hmax =>
    cases hq with
    | noUrl => cases h
    | @unreadable m => exact absurd h (Nat.ne_of_gt m.position_bounds.2)
    | crossed hmin' hmax' => rw [hmin.unique hmin', hmax.unique hmax']

-- Nothing is wrong at the first positions.
def Clear (lookup : String → Option String) (i : Nat) : Prop := ∀ q : Problem, q.position < i → ¬Has lookup q

theorem clear_of_url (h : ¬Has lookup .noUrl) : Clear lookup 1 := by
  intro q hq
  cases q with
  | noUrl => exact h
  | unreadable n => exact absurd (Nat.lt_one_iff.mp hq) (Nat.ne_of_gt n.position_bounds.1)
  | crossed => cases Nat.lt_one_iff.mp hq

theorem Clear.next (hc : Clear lookup n.position) (h : Gives lookup n k) : Clear lookup (n.position + 1) := by
  intro q hq
  obtain hlt | heq := Nat.lt_succ_iff_lt_or_eq.mp hq
  case inl => exact hc q hlt
  case inr =>
    cases q with
    | noUrl => exact absurd heq.symm (Nat.ne_of_gt n.position_bounds.1)
    | unreadable m =>
      obtain rfl := Number.position_injective heq
      exact h.not_unreadable
    | crossed => exact absurd heq (Nat.ne_of_gt n.position_bounds.2)

theorem Has.first (hp : Has lookup p) (h : Clear lookup p.position) : First lookup p :=
  ⟨hp, fun q hq => Nat.le_of_not_lt fun hlt => h q hlt hq⟩

theorem First.unique (hp : First lookup p) (hq : First lookup q) : p = q :=
  hp.has.eq_of_position hq.has (Nat.le_antisymm (hp.least q hq.has) (hq.least p hp.has))

theorem Holds.not_has (h : Holds lookup c) : ¬Has lookup p := by
  intro hp
  cases hp with
  | noUrl hblank => exact h.notBlank (hblank _ h.url)
  | unreadable hs hno => exact (h.numbers _).not_unreadable (.unreadable hs hno)
  | crossed hmin hmax hlt =>
    obtain rfl := hmin.unique (h.numbers .min)
    obtain rfl := hmax.unique (h.numbers .max)
    exact Nat.not_le_of_lt hlt (UInt32.le_iff_toNat_le.mp h.ordered)

theorem Holds.unique {d : Settings} (hc : Holds lookup c) (hd : Holds lookup d) : c = d := by
  obtain ⟨url, max, min, timeout⟩ := c
  obtain ⟨url', max', min', timeout'⟩ := d
  obtain rfl : url = url' := Option.some.inj (hc.url.symm.trans hd.url)
  obtain rfl : max = max' := UInt32.toNat_inj.mp ((hc.numbers .max).unique (hd.numbers .max))
  obtain rfl : min = min' := UInt32.toNat_inj.mp ((hc.numbers .min).unique (hd.numbers .min))
  obtain rfl : timeout = timeout' := UInt64.toNat_inj.mp ((hc.numbers .timeout).unique (hd.numbers .timeout))
  rfl

theorem urlAt_cases (lookup : String → Option String) :
    (∃ url, urlAt lookup = .ok url ∧ lookup urlKey = some url ∧ ¬IsBlank url.toList) ∨
    (urlAt lookup = .error (.config Problem.noUrl.message) ∧ Has lookup .noUrl) := by
  rw [urlAt]
  cases hurl : lookup urlKey with
  | none => exact .inr ⟨rfl, .noUrl fun s hs => by cases hurl.symm.trans hs⟩
  | some url =>
    have hblank : (trim url.toList).isEmpty = true ↔ IsBlank url.toList := List.isEmpty_iff.trans trim_eq_nil_iff
    dsimp only
    split
    case isTrue h =>
      refine .inr ⟨rfl, .noUrl fun s hs => ?_⟩
      obtain rfl := Option.some.inj (hurl.symm.trans hs)
      exact hblank.mp h
    case isFalse h => exact .inl ⟨url, rfl, rfl, mt hblank.mpr h⟩

theorem numberAt_cases (lookup : String → Option String) (n : Number) :
    (∃ k, numberAt lookup n.key n.bound n.default = .ok k ∧ Gives lookup n k) ∨
    ∃ s, numberAt lookup n.key n.bound n.default = .error (.config (Problem.unreadable n s).message) ∧
      Has lookup (.unreadable n s) := by
  rw [numberAt]
  cases hs : lookup n.key with
  | none => exact .inl ⟨n.default, rfl, .default hs⟩
  | some s =>
    dsimp only
    cases hk : number? n.bound s with
    | some k =>
      obtain ⟨hdenotes, hlt⟩ := number?_eq_some_iff.mp hk
      exact .inl ⟨k, rfl, .text hs hdenotes hlt⟩
    | none =>
      refine .inr ⟨s, rfl, .unreadable hs fun k hdenotes => Nat.le_of_not_lt fun hlt => ?_⟩
      cases hk.symm.trans (hdenotes.number?_eq hlt)

-- The one case analysis of the steps of reading, in their order.
theorem ofLookup_cases (lookup : String → Option String) :
    (∃ c, ofLookup lookup = .ok c ∧ Holds lookup c) ∨
    ∃ p, ofLookup lookup = .error (.config p.message) ∧ First lookup p := by
  have heq : ofLookup lookup = do
      let url ← urlAt lookup
      let max ← numberAt lookup Number.max.key Number.max.bound Number.max.default
      let min ← numberAt lookup Number.min.key Number.min.bound Number.min.default
      let timeout ← numberAt lookup Number.timeout.key Number.timeout.bound Number.timeout.default
      if max < min then throw (.config (Problem.crossed min max).message)
      return ⟨url, .ofNat max, .ofNat min, .ofNat timeout⟩ := rfl
  rw [heq]
  obtain ⟨url, hread, hurl, hblank⟩ | ⟨hread, hno⟩ := urlAt_cases lookup
  case inr =>
    rw [hread]
    exact .inr ⟨.noUrl, rfl, hno.first fun q hq => absurd hq (Nat.not_lt_zero _)⟩
  have hclear : Clear lookup Number.max.position := clear_of_url (not_noUrl hurl hblank)
  obtain ⟨max, hreadMax, hmax⟩ | ⟨s, hreadMax, hno⟩ := numberAt_cases lookup .max
  case inr =>
    rw [hread, hreadMax]
    exact .inr ⟨.unreadable .max s, rfl, hno.first hclear⟩
  obtain ⟨min, hreadMin, hmin⟩ | ⟨s, hreadMin, hno⟩ := numberAt_cases lookup .min
  case inr =>
    rw [hread, hreadMax, hreadMin]
    exact .inr ⟨.unreadable .min s, rfl, hno.first (hclear.next hmax)⟩
  obtain ⟨timeout, hreadTimeout, htimeout⟩ | ⟨s, hreadTimeout, hno⟩ := numberAt_cases lookup .timeout
  case inr =>
    rw [hread, hreadMax, hreadMin, hreadTimeout]
    exact .inr ⟨.unreadable .timeout s, rfl, hno.first ((hclear.next hmax).next hmin)⟩
  have hallClear : Clear lookup 4 := ((hclear.next hmax).next hmin).next htimeout
  have hlast : ofLookup lookup = if max < min then .error (.config (Problem.crossed min max).message)
      else .ok ⟨url, .ofNat max, .ofNat min, .ofNat timeout⟩ := by
    rw [heq, hread, hreadMax, hreadMin, hreadTimeout]
    rfl
  rw [← heq, hlast]
  split
  case isTrue hlt => exact .inr ⟨.crossed min max, rfl, (Has.crossed hmin hmax hlt).first hallClear⟩
  case isFalse hle =>
    have hmaxNat : (UInt32.ofNat max).toNat = max := UInt32.toNat_ofNat_of_lt' hmax.lt_bound
    have hminNat : (UInt32.ofNat min).toNat = min := UInt32.toNat_ofNat_of_lt' hmin.lt_bound
    have htimeoutNat : (UInt64.ofNat timeout).toNat = timeout := UInt64.toNat_ofNat_of_lt' htimeout.lt_bound
    refine .inl ⟨_, rfl, hurl, hblank, fun n => ?numbers, ?ordered⟩
    case numbers =>
      cases n with
      | max => rwa [Number.of, hmaxNat]
      | min => rwa [Number.of, hminNat]
      | timeout => rwa [Number.of, htimeoutNat]
    case ordered =>
      rw [UInt32.le_iff_toNat_le, hmaxNat, hminNat]
      exact Nat.le_of_not_lt hle

theorem ofLookup_eq_ok_iff : ofLookup lookup = .ok c ↔ Holds lookup c := by
  obtain ⟨d, hread, hd⟩ | ⟨p, hread, hp⟩ := ofLookup_cases lookup
  case inl =>
    rw [hread, Except.ok.injEq]
    exact ⟨fun h => h ▸ hd, fun hc => hd.unique hc⟩
  case inr =>
    rw [hread]
    exact iff_of_false (by simp) fun hc => hc.not_has hp.has

theorem ofLookup_eq_error_iff {e : Error} :
    ofLookup lookup = .error e ↔ ∃ p, First lookup p ∧ e = .config p.message := by
  obtain ⟨d, hread, hd⟩ | ⟨p, hread, hp⟩ := ofLookup_cases lookup
  case inl =>
    rw [hread]
    exact iff_of_false (by simp) fun ⟨p, hp, _⟩ => hd.not_has hp.has
  case inr =>
    rw [hread, Except.error.injEq]
    exact ⟨fun h => ⟨p, hp, h.symm⟩, fun ⟨q, hq, he⟩ => hp.unique hq ▸ he.symm⟩

theorem exists_ofLookup_eq_ok_iff : (∃ c, ofLookup lookup = .ok c) ↔ ∀ p, ¬Has lookup p := by
  obtain ⟨d, hread, hd⟩ | ⟨p, hread, hp⟩ := ofLookup_cases lookup
  case inl => exact iff_of_true ⟨d, hread⟩ fun p => hd.not_has
  case inr =>
    rw [hread]
    exact iff_of_false (by simp) fun h => h p hp.has

theorem Number.of_lt_bound (n : Number) (c : Settings) : n.of c < n.bound := by
  cases n with
  | max => exact c.maxConnections.toNat_lt
  | min => exact c.minConnections.toNat_lt
  | timeout => exact c.acquireTimeout.toNat_lt

theorem Writes.holds (h : Writes c lookup) (hurl : ¬IsBlank c.url.toList) (ho : c.minConnections ≤ c.maxConnections) :
    Holds lookup c := by
  refine ⟨h.url, hurl, fun n => ?_, ho⟩
  obtain ⟨front, back, hfront, hback, hs⟩ := h.numbers n
  exact .text hs (denotes_written hfront hback _) (n.of_lt_bound c)

-- Settings are read exactly where nothing is wrong, as what the texts say, and otherwise what is wrong first is
-- reported. Settings that were written are read as they were.
theorem settings_read :
    (∀ lookup, (∃ c, ofLookup lookup = .ok c) ↔ ∀ p, ¬Has lookup p) ∧
    (∀ lookup c, ofLookup lookup = .ok c ↔ Holds lookup c) ∧
    (∀ lookup e, ofLookup lookup = .error e ↔ ∃ p, First lookup p ∧ e = .config p.message) ∧
    ∀ c lookup, ¬IsBlank c.url.toList → c.minConnections ≤ c.maxConnections → Writes c lookup →
      ofLookup lookup = .ok c :=
  ⟨fun _ => exists_ofLookup_eq_ok_iff, fun _ _ => ofLookup_eq_ok_iff, fun _ _ => ofLookup_eq_error_iff,
    fun _ _ hurl ho h => ofLookup_eq_ok_iff.mpr (h.holds hurl ho)⟩

-- A minimum alone is held against the default maximum.
example : ofLookup (fun key => if key = urlKey then some "sqlite:" else if key = minKey then some "+11" else none) =
    .error (.config (Problem.crossed 11 10).message) := by
  rfl

-- One connection at all times and the longest wait there is, behind an address that begins with a blank.
def narrow : Settings := ⟨" sqlite::memory:", 1, 1, 18446744073709551615⟩

def narrowTexts (key : String) : Option String :=
  if key = urlKey then some " sqlite::memory:"
  else if key = timeoutKey then some "18446744073709551615"
  else some "\u3000 1\n"

theorem narrow_read :
    ¬IsBlank narrow.url.toList ∧ narrow.minConnections ≤ narrow.maxConnections ∧ Writes narrow narrowTexts ∧
    ofLookup narrowTexts = .ok narrow := by
  obtain ⟨-, -, -, again⟩ := settings_read
  have hurl : ¬IsBlank narrow.url.toList := fun h => absurd (h 's' (by decide)) (by decide)
  have hwrites : Writes narrow narrowTexts := by
    refine ⟨rfl, fun n => ?_⟩
    cases n with
    | max | min => exact ⟨['\u3000', ' '], ['\n'], by decide, by decide, rfl⟩
    | timeout => exact ⟨[], [], by decide, by decide, rfl⟩
  exact ⟨hurl, by decide, hwrites, again narrow narrowTexts hurl (by decide) hwrites⟩

end SqlBuilder.Settings
