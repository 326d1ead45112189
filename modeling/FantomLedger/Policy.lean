import FantomLedger.Bip44

/-! The security policy of a derivation path, against the five levels of the standard. -/

namespace FantomLedger

open Library.Program

inductive SecurityPolicy where
  | deny
  | prompt
  | warn
  | show
  | allow
  deriving DecidableEq, Repr

variable {σ : Type}

def policyForGetPublicKey (path : Bip44Path) : EStateM Exc σ SecurityPolicy := do
  if !bip44HasValidFantomPrefix path then
    return .deny
  if !bip44ContainsAccount path then
    return .deny
  if !(← bip44HasReasonableAccount path) then
    return .warn
  return .prompt

/-- The checks that two policies share; they differ in the policy for what is left. -/
def policyForPath (default : SecurityPolicy) (path : Bip44Path) : EStateM Exc σ SecurityPolicy := do
  if !bip44HasValidFantomPrefix path then
    return .deny
  if !bip44ContainsChangeType path then
    return .deny
  if !bip44ContainsAddress path then
    return .deny
  if !(← bip44HasReasonableAccount path) then
    return .warn
  if !(← bip44HasReasonableAddress path) then
    return .warn
  if bip44ContainsMoreThanAddress path then
    return .warn
  return default

def policyForGetAddress (path : Bip44Path) (isShowAddress : Bool) : EStateM Exc σ SecurityPolicy :=
  policyForPath (if isShowAddress then .prompt else .allow) path

def policyForSignTxInit (path : Bip44Path) : EStateM Exc σ SecurityPolicy :=
  policyForPath .prompt path

def policyForSignTxFinalize : EStateM Exc σ SecurityPolicy := pure .prompt

def assertNotDenied (policy : SecurityPolicy) : EStateM Exc σ Unit :=
  validate (policy != .deny) errRejectedByPolicy

/-- The indexes of a path as numbers. -/
def Bip44Path.numbers (path : Bip44Path) : List Nat := path.indexes.map UInt32.toNat

/-- The number of an index with an apostrophe. -/
def hardened (index : Nat) : Nat := 2 ^ 31 + index

/-- The path 44'/60'/a'/c/i. -/
def fiveLevels (account change address : Nat) : List Nat :=
  [hardened 44, hardened 60, hardened account, change, address]

def Bip44Path.Standard (path : Bip44Path) : Prop :=
  ∃ account change address, path.numbers = fiveLevels account change address ∧
    account < 10 ∧ change ≤ 1 ∧ address ≤ 1000000

/-- Fewer than five indexes, or not under 44'/60'. -/
def Bip44Path.Outside (path : Bip44Path) : Prop :=
  path.numbers.length < 5 ∨ ¬[hardened 44, hardened 60] <+: path.numbers

/-- A path of five levels whose only fault is its change index. -/
def Bip44Path.UnusualChange (path : Bip44Path) : Prop :=
  ∃ account change address, path.numbers = fiveLevels account change address ∧
    account < 10 ∧ 1 < change ∧ address ≤ 1000000

/-- Denied outside the coin, accepted at the standard paths, and a warning for the others. -/
structure Classifies (policy accepted : SecurityPolicy) (path : Bip44Path) : Prop where
  deny : policy = .deny ↔ path.Outside
  accepts : policy = accepted ↔ path.Standard
  warn : policy = .warn ↔ ¬path.Outside ∧ ¬path.Standard

theorem isHardened_iff (value : UInt32) : bip44IsHardened value ↔ 2 ^ 31 ≤ value.toNat := by
  have bound := value.toNat_lt
  have mask : hardenedBip32.toNat = 2 ^ 31 := rfl
  rw [bip44IsHardened, beq_iff_eq, ← UInt32.toNat_inj, UInt32.toNat_or, mask]
  constructor
  · intro same
    rw [same]
    exact Nat.right_le_or
  · intro large
    have split : value.toNat = 2 ^ 31 * 1 + value.toNat % 2 ^ 31 := by omega
    have low : value.toNat % 2 ^ 31 < 2 ^ 31 := Nat.mod_lt _ (by decide)
    rw [split, Nat.two_pow_add_eq_or_of_lt low, Nat.mul_one, Nat.or_assoc,
      Nat.or_comm (value.toNat % 2 ^ 31), ← Nat.or_assoc, Nat.or_self]

theorem unhardened_toNat (value : UInt32) :
    (value &&& ~~~hardenedBip32).toNat = value.toNat % 2 ^ 31 := by
  have mask : (~~~hardenedBip32).toNat = 2 ^ 31 - 1 := by decide
  rw [UInt32.toNat_and, mask, Nat.and_two_pow_sub_one_eq_mod]

namespace Bip44Path

variable (path : Bip44Path)

def ReasonableAccount : Prop :=
  hardened 0 ≤ (path.path[2]?.getD 0).toNat ∧ (path.path[2]?.getD 0).toNat < hardened 10

def ReasonableAddress : Prop := (path.path[4]?.getD 0).toNat ≤ 1000000

theorem reasonableAccount_iff :
    path.ReasonableAccount ↔
      hardened 0 ≤ path.path[2].toNat ∧ path.path[2].toNat < hardened 10 := Iff.rfl

theorem reasonableAddress_iff : path.ReasonableAddress ↔ path.path[4].toNat ≤ 1000000 := Iff.rfl

instance : Decidable path.ReasonableAccount := inferInstanceAs (Decidable (_ ∧ _))

instance : Decidable path.ReasonableAddress := inferInstanceAs (Decidable (_ ≤ _))

end Bip44Path

theorem accountCheck_eq (account : UInt32) :
    (if !bip44IsHardened account then pure false
      else pure (decide (account &&& ~~~hardenedBip32 < maxReasonableAccount)) : EStateM Exc σ Bool) =
      pure (decide (hardened 0 ≤ account.toNat ∧ account.toNat < hardened 10)) := by
  have bound := account.toNat_lt
  have limit : maxReasonableAccount.toNat = 10 := rfl
  unfold hardened
  by_cases marked : 2 ^ 31 ≤ account.toNat
  · have flag : bip44IsHardened account = true := (isHardened_iff _).mpr marked
    have small : account &&& ~~~hardenedBip32 < maxReasonableAccount ↔
        2 ^ 31 + 0 ≤ account.toNat ∧ account.toNat < 2 ^ 31 + 10 := by
      rw [UInt32.lt_iff_toNat_lt, unhardened_toNat, limit]
      omega
    rw [flag, Bool.not_true, if_neg Bool.false_ne_true, decide_eq_decide.mpr small]
  · have flag : bip44IsHardened account = false := by
      rw [← Bool.not_eq_true, isHardened_iff]
      exact marked
    have refused : ¬(2 ^ 31 + 0 ≤ account.toNat ∧ account.toNat < 2 ^ 31 + 10) := by omega
    rw [flag, decide_eq_false refused]
    rfl

theorem hasReasonableAccount_eq {path : Bip44Path} (long : 2 < path.length) :
    (bip44HasReasonableAccount path : EStateM Exc σ Bool) = pure (decide path.ReasonableAccount) := by
  have contains : bip44ContainsAccount path = true := decide_eq_true long
  have asserted : (assertThat (decide (bip44IAccount < path.length)) : EStateM Exc σ Unit) = pure () := by
    rw [decide_eq_true (show bip44IAccount < path.length from long), assertThat_true]
  simp only [bip44HasReasonableAccount, bip44GetAccount, contains, asserted, Bool.not_true,
    Bool.false_eq_true, ↓reduceIte, pure_bind]
  exact accountCheck_eq path.path[2]

theorem hasReasonableAddress_eq {path : Bip44Path} (long : 4 < path.length) :
    (bip44HasReasonableAddress path : EStateM Exc σ Bool) = pure (decide path.ReasonableAddress) := by
  have contains : bip44ContainsAddress path = true := decide_eq_true long
  have asserted : (assertThat (decide (bip44IAddress < path.length)) : EStateM Exc σ Unit) = pure () := by
    rw [decide_eq_true (show bip44IAddress < path.length from long), assertThat_true]
  simp only [bip44HasReasonableAddress, bip44GetAddress, contains, asserted, Bool.not_true,
    Bool.false_eq_true, ↓reduceIte, pure_bind]
  rfl

/-- The narrowed change index always is one of the two that the check allows. -/
theorem hasValidChangeType_eq (path : Bip44Path) :
    (bip44HasValidChangeType path : EStateM Exc σ Bool) = pure (decide (3 < path.length)) := by
  unfold bip44HasValidChangeType bip44ContainsChangeType bip44GetChangeType
  by_cases long : 3 < path.length
  · rw [decide_eq_true (show bip44IChange < path.length from long), decide_eq_true long]
    by_cases zero : path.path[3] = 0
    · simp [zero, operaChangeExternal, operaChangeInternal]
    · simp [zero, operaChangeExternal, operaChangeInternal]
  · rw [decide_eq_false (show ¬bip44IChange < path.length from long), decide_eq_false long]
    rfl

namespace Bip44Path

variable (path : Bip44Path)

@[simp] theorem numbers_length : path.numbers.length = path.length := by
  have fits := path.fits
  simp [numbers, indexes, fits]

theorem numbers_get {i : Nat} (inPath : i < path.length) (inRange : i < bip32MaxPathLength) :
    path.numbers[i]? = some path.path[i].toNat := by
  rw [numbers, List.getElem?_map, indexes, List.getElem?_take_of_lt inPath]
  simp [inRange]

theorem prefix_iff : bip44HasValidFantomPrefix path ↔ [hardened 44, hardened 60] <+: path.numbers := by
  have purpose : (bip44 ||| hardenedBip32).toNat = hardened 44 := by decide
  have coin : (fantomCoinType ||| hardenedBip32).toNat = hardened 60 := by decide
  rw [bip44HasValidFantomPrefix, Bool.and_eq_true, Bool.and_eq_true, decide_eq_true_eq, beq_iff_eq,
    beq_iff_eq, ← UInt32.toNat_inj, ← UInt32.toNat_inj, purpose, coin, bip44ICoinType]
  by_cases long : 1 < path.length
  · have first := path.numbers_get (show 0 < path.length by omega) (by decide)
    have second := path.numbers_get long (by decide)
    generalize path.path[0].toNat = purposeIndex at first
    generalize path.path[1].toNat = coinIndex at second
    rcases shape : path.numbers with _ | ⟨a, _ | ⟨b, rest⟩⟩
    · simp [shape] at first
    · simp [shape] at second
    · simp only [shape, List.getElem?_cons_zero, List.getElem?_cons_succ, Option.some_inj]
        at first second
      subst first second
      simp [long, eq_comm]
  · have short := path.numbers_length
    constructor
    · rintro ⟨⟨more, _⟩, _⟩
      exact absurd more long
    · intro prefixed
      have fits := prefixed.length_le
      rw [short] at fits
      exact absurd fits (by simpa using long)

theorem fiveLevels_iff {account change address : Nat} (inside : ¬path.Outside) :
    path.numbers = fiveLevels account change address ↔
      path.length = 5 ∧ path.path[2].toNat = hardened account ∧ path.path[3].toNat = change ∧
        path.path[4].toNat = address := by
  have size := path.numbers_length
  rw [Outside, not_or, not_not, size] at inside
  obtain ⟨long, rest, shape⟩ := inside
  have third := path.numbers_get (show 2 < path.length by omega) (by decide)
  have fourth := path.numbers_get (show 3 < path.length by omega) (by decide)
  have fifth := path.numbers_get (show 4 < path.length by omega) (by decide)
  generalize path.path[2].toNat = accountIndex at third
  generalize path.path[3].toNat = changeIndex at fourth
  generalize path.path[4].toNat = addressIndex at fifth
  rw [← shape] at third fourth fifth size ⊢
  rcases rest with _ | ⟨a, _ | ⟨b, _ | ⟨c, rest⟩⟩⟩
  · simp at third
  · simp at fourth
  · simp at fifth
  · simp only [List.cons_append, List.nil_append, List.getElem?_cons_succ, List.getElem?_cons_zero,
      Option.some_inj] at third fourth fifth
    simp only [List.cons_append, List.nil_append, List.length_cons] at size
    subst third fourth fifth
    have full : path.length = 5 ↔ rest = [] := by
      rw [← size, ← List.length_eq_zero_iff]
      omega
    rw [full, fiveLevels]
    simp only [List.cons_append, List.nil_append, List.cons.injEq, true_and]
    constructor
    · rintro ⟨one, two, three, nothing⟩
      exact ⟨nothing, one, two, three⟩
    · rintro ⟨nothing, one, two, three⟩
      exact ⟨one, two, three, nothing⟩

/-- Depth, account and address are as the standard has them; the change index is free. -/
def Reasonable : Prop := path.length = 5 ∧ path.ReasonableAccount ∧ path.ReasonableAddress

instance : Decidable path.Reasonable := inferInstanceAs (Decidable (_ ∧ _))

theorem reasonable_iff (inside : ¬path.Outside) :
    path.Reasonable ↔ ∃ account change address, path.numbers = fiveLevels account change address ∧
      account < 10 ∧ address ≤ 1000000 := by
  have levels {account change address : Nat} := @fiveLevels_iff path account change address inside
  rw [Reasonable, reasonableAccount_iff, reasonableAddress_iff]
  generalize path.path[2].toNat = accountIndex at levels ⊢
  generalize path.path[3].toNat = changeIndex at levels
  generalize path.path[4].toNat = addressIndex at levels ⊢
  constructor
  · rintro ⟨five, ⟨marked, account⟩, address⟩
    unfold hardened at marked account
    refine ⟨accountIndex - 2 ^ 31, changeIndex, addressIndex, levels.mpr ⟨five, ?_, rfl, rfl⟩, ?_, address⟩
    · unfold hardened
      omega
    · omega
  · rintro ⟨account, change, address, shape, fewAccounts, fewAddresses⟩
    obtain ⟨five, rfl, _, rfl⟩ := levels.mp shape
    unfold hardened
    exact ⟨five, by omega, fewAddresses⟩

end Bip44Path

instance (path : Bip44Path) : Decidable path.Outside := inferInstanceAs (Decidable (_ ∨ _))

theorem policyForGetPublicKey_eq (path : Bip44Path) :
    (policyForGetPublicKey path : EStateM Exc σ SecurityPolicy) =
      pure (if bip44HasValidFantomPrefix path = true ∧ 2 < path.length then
        if path.ReasonableAccount then .prompt else .warn else .deny) := by
  unfold policyForGetPublicKey
  by_cases valid : bip44HasValidFantomPrefix path = true
  · by_cases long : 2 < path.length
    · have contains : bip44ContainsAccount path = true := decide_eq_true long
      by_cases reasonable : path.ReasonableAccount
      · simp [valid, contains, hasReasonableAccount_eq long, long, reasonable]
      · simp [valid, contains, hasReasonableAccount_eq long, long, reasonable]
    · have contains : bip44ContainsAccount path = false := decide_eq_false long
      simp [valid, contains, long]
  · simp [valid]

theorem alike_policyForGetPublicKey {τ : Type} (path : Bip44Path) :
    Alike (policyForGetPublicKey path : EStateM Exc σ _) (policyForGetPublicKey path : EStateM Exc τ _) := by
  rw [policyForGetPublicKey_eq, policyForGetPublicKey_eq]
  exact alike_pure _

/-- What the cascade of checks comes down to. -/
theorem policyForPath_eq (default : SecurityPolicy) (path : Bip44Path) :
    (policyForPath default path : EStateM Exc σ SecurityPolicy) =
      pure (if path.Outside then .deny else if path.Reasonable then default else .warn) := by
  have start := path.prefix_iff
  have size := path.numbers_length
  unfold policyForPath
  by_cases outside : path.Outside
  · rw [if_pos outside]
    rw [Bip44Path.Outside, ← start, size] at outside
    by_cases valid : bip44HasValidFantomPrefix path = true
    · have short : path.length < 5 := by
        rcases outside with short | invalid
        · exact short
        · exact absurd valid invalid
      have noAddress : bip44ContainsAddress path = false :=
        decide_eq_false (show ¬4 < path.length by omega)
      simp [valid, noAddress]
    · simp [valid]
  · have reasonable := outside
    rw [if_neg outside]
    rw [Bip44Path.Outside, ← start, size, not_or, not_not] at outside
    obtain ⟨long, valid⟩ := outside
    have change : bip44ContainsChangeType path = true :=
      decide_eq_true (show 3 < path.length by omega)
    have address : bip44ContainsAddress path = true :=
      decide_eq_true (show 4 < path.length by omega)
    have more : bip44ContainsMoreThanAddress path = decide (5 < path.length) := rfl
    simp only [valid, change, address, more, Bool.not_true, Bool.false_eq_true, ↓reduceIte,
      hasReasonableAccount_eq (show 2 < path.length by omega),
      hasReasonableAddress_eq (show 4 < path.length by omega), pure_bind]
    unfold Bip44Path.Reasonable
    by_cases account : path.ReasonableAccount
    · by_cases few : path.ReasonableAddress
      · by_cases deep : 5 < path.length
        · have notFive : path.length ≠ 5 := by omega
          simp [account, few, deep, notFive]
        · have five : path.length = 5 := by omega
          simp [account, few, five]
      · simp [account, few]
    · simp [account]

theorem alike_policyForPath {τ : Type} (default : SecurityPolicy) (path : Bip44Path) :
    Alike (policyForPath default path : EStateM Exc σ _) (policyForPath default path : EStateM Exc τ _) := by
  rw [policyForPath_eq, policyForPath_eq]
  exact alike_pure _

/-- No key is exported without a question. -/
theorem publicKeyPolicy_cases {path : Bip44Path} {policy : SecurityPolicy}
    (classified : (policyForGetPublicKey path : EStateM Exc Unit _).run () = .ok policy ())
    (notDenied : policy ≠ .deny) : policy = .prompt ∨ policy = .warn := by
  rw [policyForGetPublicKey_eq] at classified
  cases classified
  split_ifs at notDenied ⊢ with accepted reasonable
  · exact .inl rfl
  · exact .inr rfl
  · exact absurd rfl notDenied

/-- Only an address that is not shown is allowed without a question. -/
theorem addressPolicy_cases {path : Bip44Path} {isShowAddress : Bool} {policy : SecurityPolicy}
    (classified : (policyForGetAddress path isShowAddress : EStateM Exc Unit _).run () = .ok policy ())
    (notDenied : policy ≠ .deny) :
    policy = .warn ∨ isShowAddress = true ∧ policy = .prompt ∨ isShowAddress = false ∧ policy = .allow := by
  rw [policyForGetAddress, policyForPath_eq] at classified
  cases classified
  split_ifs at notDenied ⊢ with outside reasonable shown
  · exact absurd rfl notDenied
  · exact .inr (.inl ⟨shown, rfl⟩)
  · exact .inr (.inr ⟨eq_false_of_ne_true shown, rfl⟩)
  · exact .inl rfl

theorem standard_or_unusual {path : Bip44Path} (inside : ¬path.Outside) :
    path.Reasonable ↔ path.Standard ∨ path.UnusualChange := by
  rw [path.reasonable_iff inside]
  constructor
  · rintro ⟨account, change, address, shape, fewAccounts, fewAddresses⟩
    rcases Nat.lt_or_ge 1 change with unusual | usual
    · exact .inr ⟨account, change, address, shape, fewAccounts, unusual, fewAddresses⟩
    · exact .inl ⟨account, change, address, shape, fewAccounts, usual, fewAddresses⟩
  · rintro (⟨account, change, address, shape, fewAccounts, _, fewAddresses⟩ |
      ⟨account, change, address, shape, fewAccounts, _, fewAddresses⟩)
    · exact ⟨account, change, address, shape, fewAccounts, fewAddresses⟩
    · exact ⟨account, change, address, shape, fewAccounts, fewAddresses⟩

theorem not_standard_of_unusual {path : Bip44Path} (unusual : path.UnusualChange) : ¬path.Standard := by
  obtain ⟨account, change, address, shape, _, unusual, _⟩ := unusual
  rintro ⟨account', change', address', shape', _, usual, _⟩
  have same := shape.symm.trans shape'
  simp only [fiveLevels, List.cons.injEq] at same
  omega

theorem fiveLevels_inside {path : Bip44Path} {account change address : Nat}
    (shape : path.numbers = fiveLevels account change address) : ¬path.Outside := by
  rw [Bip44Path.Outside, shape, not_or, not_not]
  exact ⟨by simp [fiveLevels], by simp [fiveLevels]⟩

theorem standard_inside {path : Bip44Path} (standard : path.Standard) : ¬path.Outside := by
  obtain ⟨_, _, _, shape, _⟩ := standard
  exact fiveLevels_inside shape

theorem unusual_inside {path : Bip44Path} (unusual : path.UnusualChange) : ¬path.Outside := by
  obtain ⟨_, _, _, shape, _⟩ := unusual
  exact fiveLevels_inside shape

theorem classifies_policy {accepted : SecurityPolicy} (prompts : accepted = .prompt ∨ accepted = .allow)
    (path : Bip44Path) :
    Classifies (if path.Outside then .deny else if path.Reasonable then accepted else .warn) accepted
      path ↔ ¬path.UnusualChange := by
  have notDeny : accepted ≠ .deny := by rcases prompts with rfl | rfl <;> decide
  have notWarn : accepted ≠ .warn := by rcases prompts with rfl | rfl <;> decide
  constructor
  · rintro ⟨_, accepts, _⟩ unusual
    have inside := unusual_inside unusual
    rw [if_neg inside, if_pos ((standard_or_unusual inside).mpr (.inr unusual))] at accepts
    exact not_standard_of_unusual unusual (accepts.mp rfl)
  · intro usual
    by_cases outside : path.Outside
    · rw [if_pos outside]
      exact ⟨iff_of_true rfl outside,
        iff_of_false notDeny.symm (fun standard => standard_inside standard outside),
        iff_of_false nofun (fun inside => inside.1 outside)⟩
    · have standard_iff : path.Reasonable ↔ path.Standard := by
        rw [standard_or_unusual outside]
        exact or_iff_left usual
      rw [if_neg outside]
      by_cases reasonable : path.Reasonable
      · rw [if_pos reasonable]
        exact ⟨iff_of_false notDeny outside, iff_of_true rfl (standard_iff.mp reasonable),
          iff_of_false notWarn (fun warned => warned.2 (standard_iff.mp reasonable))⟩
      · rw [if_neg reasonable]
        have other : ¬path.Standard := fun standard => reasonable (standard_iff.mpr standard)
        exact ⟨iff_of_false nofun outside, iff_of_false notWarn.symm other,
          iff_of_true rfl ⟨outside, other⟩⟩

/-- Both policies put the path in its class. -/
def PolicyFollowsStandard (path : Bip44Path) : Prop :=
  (∃ policy, (policyForSignTxInit path : EStateM Exc Unit SecurityPolicy) = pure policy ∧
    Classifies policy .prompt path) ∧
  ∀ isShowAddress, ∃ policy,
    (policyForGetAddress path isShowAddress : EStateM Exc Unit SecurityPolicy) = pure policy ∧
      Classifies policy (if isShowAddress then .prompt else .allow) path

/-- The policies follow the standard for all paths but those of five levels with a change index
that is neither 0 nor 1; these are accepted without a warning. -/
theorem policyFollowsStandard_iff (path : Bip44Path) :
    PolicyFollowsStandard path ↔ ¬path.UnusualChange := by
  have pure_inj {first second : SecurityPolicy}
      (same : (pure first : EStateM Exc Unit SecurityPolicy) = pure second) : first = second := by
    have run := congrArg (fun code : EStateM Exc Unit SecurityPolicy => code.run ()) same
    injection run
  constructor
  · rintro ⟨⟨policy, runs, classified⟩, _⟩
    rw [policyForSignTxInit, policyForPath_eq] at runs
    rw [← pure_inj runs] at classified
    exact (classifies_policy (.inl rfl) path).mp classified
  · intro usual
    refine ⟨⟨_, policyForPath_eq _ path, (classifies_policy (.inl rfl) path).mpr usual⟩, ?_⟩
    intro isShowAddress
    refine ⟨_, policyForPath_eq _ path, (classifies_policy ?_ path).mpr usual⟩
    cases isShowAddress
    · exact .inr rfl
    · exact .inl rfl

theorem fiveLevels_fit : 5 ≤ bip32MaxPathLength := by decide

/-- The path 44'/60'/0'/7/0. -/
def changeSeven : Bip44Path :=
  ⟨#v[0x8000002c, 0x8000003c, 0x80000000, 7, 0, 0, 0, 0, 0, 0], 5, fiveLevels_fit⟩

/-- Nor would the check of the change type, which no policy asks for, have stopped this path. -/
theorem changeSeven_not_warned :
    (policyForSignTxInit changeSeven : EStateM Exc Unit SecurityPolicy) = pure .prompt ∧
      (bip44HasValidChangeType changeSeven : EStateM Exc Unit Bool) = pure true ∧
      ¬PolicyFollowsStandard changeSeven := by
  refine ⟨rfl, hasValidChangeType_eq changeSeven, ?_⟩
  rw [PolicyFollowsStandard]
  rintro ⟨⟨policy, runs, classified⟩, _⟩
  obtain rfl : SecurityPolicy.prompt = policy := by
    have run := congrArg (fun code : EStateM Exc Unit SecurityPolicy => code.run ()) runs
    injection run
  obtain ⟨account, change, address, shape, _, usual, _⟩ := classified.accepts.mp rfl
  have numbers : changeSeven.numbers = fiveLevels 0 7 0 := by decide
  have same := numbers.symm.trans shape
  simp only [fiveLevels, List.cons.injEq] at same
  omega

end FantomLedger
