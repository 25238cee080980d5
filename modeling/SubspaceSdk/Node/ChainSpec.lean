import SubspaceSdk.ProofKit.Checked
import SubspaceSdk.ProofKit.Instalments

/-! The token grants of the compiled chain specs: what the genesis credits to an account, and the
two schedules by which the vesting pallet releases it. -/

namespace SubspaceSdk.ChainSpec

open ProofKit ProofKit.Checked

abbrev Balance := BitVec 128

abbrev BlockNumber := BitVec 32

/-- How the crate is compiled: an overflow ends the program, or wraps. -/
inductive Profile where
  | debug
  | release
  deriving Repr, DecidableEq

namespace Profile

variable {w : Nat}

def mul (profile : Profile) (x y : BitVec w) : Except Fault (BitVec w) :=
  match profile with
  | debug => Checked.mul x y
  | release => .ok (x * y)

def add (profile : Profile) (x y : BitVec w) : Except Fault (BitVec w) :=
  match profile with
  | debug => Checked.add x y
  | release => .ok (x + y)

/-- Under either profile a product is the wrapped one. -/
theorem mul_eq {profile : Profile} {x y z : BitVec w} (computed : profile.mul x y = .ok z) :
    z = x * y := by
  cases profile with
  | release => exact (Except.ok.inj computed).symm
  | debug =>
    rw [mul, Checked.mul] at computed
    split at computed
    · exact (Except.ok.inj computed).symm
    · cases computed

theorem add_eq {profile : Profile} {x y z : BitVec w} (computed : profile.add x y = .ok z) :
    z = x + y := by
  cases profile with
  | release => exact (Except.ok.inj computed).symm
  | debug =>
    rw [add, Checked.add] at computed
    split at computed
    · exact (Except.ok.inj computed).symm
    · cases computed

end Profile

/-- How the construction of a genesis ends the program. -/
inductive GenesisPanic where
  | fault (fault : Fault)
  | expected (message : String)
  deriving Repr, DecidableEq

def arithmetic {α : Type} (result : Except Fault α) : Except GenesisPanic α :=
  result.mapError .fault

def expect {α : Type} (message : String) (value : Option α) : Except GenesisPanic α :=
  value.elim (.error (.expected message)) .ok

/-- `u32::try_from`. -/
def u32TryFrom (n : BitVec 64) : Option (BitVec 32) :=
  if n.toNat < 2 ^ 32 then some (n.setWidth 32) else none

/-- One token, in the units of a balance. -/
def SSC : Balance := 1_000_000_000_000_000_000

def startBlock : BlockNumber := 100_000_000

/-- who, start, period, period_count, per_period -/
structure VestingSchedule (AccountId : Type) where
  who : AccountId
  start : BlockNumber
  period : BlockNumber
  periodCount : BitVec 32
  perPeriod : Balance
  deriving Repr, DecidableEq

/-- What one grant adds to the genesis. -/
structure Grant (AccountId : Type) where
  credit : AccountId × Balance
  schedules : List (VestingSchedule AccountId)
  deriving Repr, DecidableEq

section Genesis

variable {AccountId : Type}

/-- The compiler refuses a product of constants that overflows, under either profile. -/
def oneMonthInBlocks (millisecsPerBlock : BitVec 64) : Except GenesisPanic (BitVec 32) := do
  let millisecs ← arithmetic (Checked.mul (3600 * 24 * 30) millisecsPerBlock)
  let blocks ← arithmetic (Checked.div millisecs 1000)
  expect "One month of blocks always fits in u32; qed" (u32TryFrom blocks)

/-- The balance that is added so that it can be locked, and the schedules of its lock. -/
def lockGrant (profile : Profile) (millisecsPerBlock : BitVec 64) (accountId : AccountId)
    (amount : Balance) : Except GenesisPanic (Grant AccountId) := do
  let oneMonthInBlocks ← oneMonthInBlocks millisecsPerBlock
  let oneYear ← arithmetic (profile.mul oneMonthInBlocks 12)
  let afterOneYear ← arithmetic (profile.add startBlock oneYear)
  .ok {
    credit := (accountId, amount)
    schedules := [
      -- 1/4 of tokens are released after 1 year.
      ⟨accountId, startBlock, oneYear, 1, amount / 4⟩,
      -- 1/48 of tokens are released every month after that for 3 more years.
      ⟨accountId, afterOneYear, oneMonthInBlocks, 36, amount / 48⟩] }

/-- The closure over one row of the table. -/
def tokenGrant (fromSs58check : String → Option AccountId) (profile : Profile)
    (millisecsPerBlock : BitVec 64) (row : String × Balance) :
    Except GenesisPanic (Grant AccountId) := do
  let accountId ← expect "Wrong vesting account address" (fromSs58check row.1)
  let amount ← arithmetic (profile.mul row.2 SSC)
  lockGrant profile millisecsPerBlock accountId amount

/-- Accounts and what they are granted, in `SSC`. -/
def tokenGrants : List (String × Balance) := [
  ("5Dns1SVEeDqnbSm2fVUqHJPCvQFXHVsgiw28uMBwmuaoKFYi", 3_000_000),
  ("5DxtHHQL9JGapWCQARYUAWj4yDcwuhg9Hsk5AjhEzuzonVyE", 1_500_000),
  ("5EHhw9xuQNdwieUkNoucq2YcateoMVJQdN8EZtmRy3roQkVK", 133_333),
  ("5C5qYYCQBnanGNPGwgmv6jiR2MxNPrGnWYLPFEyV1Xdy2P3x", 178_889),
  ("5GBWVfJ253YWVPHzWDTos1nzYZpa9TemP7FpQT9RnxaFN6Sz", 350_000),
  ("5F9tEPid88uAuGbjpyegwkrGdkXXtaQ9sGSWEnYrfVCUCsen", 111_111),
  ("5DkJFCv3cTBsH5y1eFT94DXMxQ3EmVzYojEA88o56mmTKnMp", 244_444),
  ("5G23o1yxWgVNQJuL4Y9UaCftAFvLuMPCRe7BCARxCohjoHc9", 311_111),
  ("5GhHwuJoK1b7uUg5oi8qUXxWHdfgzv6P5CQSdJ3ffrnPRgKM", 317_378),
  ("5EqBwtqrCV427xCtTsxnb9X2Qay39pYmKNk9wD9Kd62jLS97", 300_000),
  ("5D9pNnGCiZ9UqhBQn5n71WFVaRLvZ7znsMvcZ7PHno4zsiYa", 600_000),
  ("5DXfPcXUcP4BG8LBSkJDrfFNApxjWySR6ARfgh3v27hdYr5S", 430_000),
  ("5CXSdDJgzRTj54f9raHN2Z5BNPSMa2ETjqCTUmpaw3ECmwm4", 330_000),
  ("5DqKxL7bQregQmUfFgzTMfRKY4DSvA1KgHuurZWYmxYSCmjY", 200_000),
  ("5CfixiS93yTwHQbzzfn8P2tMxhKXdTx7Jam9htsD7XtiMFtn", 27_800),
  ("5FZe9YzXeEXe7sK5xLR8yCmbU8bPJDTZpNpNbToKvSJBUiEo", 18_067),
  ("5FZwEgsvZz1vpeH7UsskmNmTpbfXvAcojjgVfShgbRqgC1nx", 27_800)]

/-- What the grants give to the genesis: `BalancesConfig`, `VestingConfig` and the key of
`SudoConfig`. -/
structure GenesisConfig (AccountId : Type) where
  sudoKey : AccountId
  balances : List (AccountId × Balance)
  vesting : List (VestingSchedule AccountId)

def genesisConfig (fromSs58check : String → Option AccountId) (profile : Profile)
    (millisecsPerBlock : BitVec 64) (sudoAddress : String) (rows : List (String × Balance)) :
    Except GenesisPanic (GenesisConfig AccountId) := do
  let sudoAccount ← expect "Wrong root account address" (fromSs58check sudoAddress)
  let sudoBalance ← arithmetic (profile.mul 1_000 SSC)
  let grants ← rows.mapM (tokenGrant fromSs58check profile millisecsPerBlock)
  .ok {
    sudoKey := sudoAccount
    balances := (sudoAccount, sudoBalance) :: grants.map (·.credit)
    vesting := grants.flatMap (·.schedules) }

def gemini3gCompiled (fromSs58check : String → Option AccountId) (profile : Profile)
    (millisecsPerBlock : BitVec 64) : Except GenesisPanic (GenesisConfig AccountId) :=
  genesisConfig fromSs58check profile millisecsPerBlock
    "5DNwQTHfARgKoa2NdiUM51ZUow7ve5xG9S2yYdSbVQcnYxBA" tokenGrants

def devnetConfigCompiled (fromSs58check : String → Option AccountId) (profile : Profile)
    (millisecsPerBlock : BitVec 64) : Except GenesisPanic (GenesisConfig AccountId) :=
  genesisConfig fromSs58check profile millisecsPerBlock
    "5CXTmJEusve5ixyJufqHThmy4qUrrm6FyLCR7QfE4bbyMTNC" tokenGrants

end Genesis

/-! ### What a grant builds -/

section Built

variable {AccountId : Type} {profile : Profile} {millisecsPerBlock : BitVec 64}
  {accountId : AccountId} {amount : Balance} {grant : Grant AccountId}

theorem arithmetic_eq_ok {α : Type} {result : Except Fault α} {a : α} :
    arithmetic result = .ok a ↔ result = .ok a := by
  cases result with
  | error fault => exact ⟨fun h => (nomatch h), fun h => (nomatch h)⟩
  | ok b => exact ⟨fun h => congrArg _ (Except.ok.inj h), fun h => congrArg _ (Except.ok.inj h)⟩

theorem expect_eq_ok {α : Type} {message : String} {value : Option α} {a : α} :
    expect message value = .ok a ↔ value = some a := by
  cases value with
  | none => exact ⟨fun h => (nomatch h), fun h => (nomatch h)⟩
  | some b => exact ⟨fun h => congrArg _ (Except.ok.inj h), fun h => congrArg _ (Option.some.inj h)⟩

/-- The conversion multiplies by the block time. -/
theorem oneMonthInBlocks_eq_ok {oneMonth : BitVec 32}
    (converted : oneMonthInBlocks millisecsPerBlock = .ok oneMonth) :
    oneMonth.toNat = 2592 * millisecsPerBlock.toNat := by
  simp only [oneMonthInBlocks, bind_eq_ok, arithmetic_eq_ok, expect_eq_ok] at converted
  obtain ⟨millisecs, product, blocks, quotient, small⟩ := converted
  have exact : millisecs.toNat = 2592000 * millisecsPerBlock.toNat := mul_eq_ok.mp product
  have rounded : blocks.toNat = millisecs.toNat / 1000 := (div_eq_ok.mp quotient).2
  rw [u32TryFrom] at small
  split at small
  next fits =>
    cases small
    rw [BitVec.toNat_setWidth, Nat.mod_eq_of_lt fits]
    omega
  next => cases small

theorem lockGrant_eq_ok (built : lockGrant profile millisecsPerBlock accountId amount = .ok grant) :
    ∃ oneMonth : BitVec 32, oneMonth.toNat = 2592 * millisecsPerBlock.toNat ∧
      grant = ⟨(accountId, amount),
        [⟨accountId, startBlock, oneMonth * 12, 1, amount / 4⟩,
          ⟨accountId, startBlock + oneMonth * 12, oneMonth, 36, amount / 48⟩]⟩ := by
  simp only [lockGrant, bind_eq_ok, arithmetic_eq_ok] at built
  obtain ⟨oneMonth, converted, oneYear, year, afterOneYear, after, same⟩ := built
  rw [Profile.add_eq after, Profile.mul_eq year] at same
  exact ⟨oneMonth, oneMonthInBlocks_eq_ok converted, (Except.ok.inj same).symm⟩

theorem genesisConfig_eq_ok {fromSs58check : String → Option AccountId} {sudoAddress : String}
    {rows : List (String × Balance)} {config : GenesisConfig AccountId}
    (built : genesisConfig fromSs58check profile millisecsPerBlock sudoAddress rows = .ok config) :
    ∃ grants : List (Grant AccountId),
      (∀ grant ∈ grants, ∃ accountId amount,
        lockGrant profile millisecsPerBlock accountId amount = .ok grant) ∧
      config.balances.tail = grants.map (·.credit) ∧
      config.vesting = grants.flatMap (·.schedules) := by
  simp only [genesisConfig, bind_eq_ok] at built
  obtain ⟨sudoAccount, -, sudoBalance, -, grants, computed, same⟩ := built
  cases same
  refine ⟨grants, fun grant mem => ?_, rfl, rfl⟩
  obtain ⟨row, -, added⟩ := exists_of_mapM_eq_ok computed grant mem
  simp only [tokenGrant, bind_eq_ok] at added
  obtain ⟨accountId, -, amount, -, added⟩ := added
  exact ⟨accountId, amount, added⟩

end Built

/-! ### What the schedules release -/

section Released

variable {AccountId : Type}

def VestingSchedule.instalments (schedule : VestingSchedule AccountId) : Instalments where
  start := schedule.start.toNat
  period := schedule.period.toNat
  count := schedule.periodCount.toNat
  each := schedule.perPeriod.toNat

/-- What the pallet has released of the schedules at a height. -/
def released (schedules : List (VestingSchedule AccountId)) (height : BlockNumber) : Nat :=
  Instalments.paidAll (schedules.map (·.instalments)) height.toNat

/-- What the pallet still locks of them. -/
def locked (schedules : List (VestingSchedule AccountId)) (height : BlockNumber) : Nat :=
  Instalments.dueAll (schedules.map (·.instalments)) height.toNat

/-- The milliseconds of a month of 30 days. -/
def month : Nat := 30 * 24 * 3600 * 1000

/-- The milliseconds that the blocks after `start_block` take up to a height. -/
def sinceStart (millisecsPerBlock : BitVec 64) (height : BlockNumber) : Nat :=
  (height.toNat - startBlock.toNat) * millisecsPerBlock.toNat

/-- The share of a grant that is free after some months, in parts of 48: nothing before a year, a
quarter then, one part for each month after that, and everything after four years. -/
def freeParts (months : Nat) : Nat := if months < 12 then 0 else min months 48

/-- A grant is released on the calendar, and what is locked of it was credited. -/
def Grant.OnCalendar (millisecsPerBlock : BitVec 64) (grant : Grant AccountId) : Prop :=
  ∀ height : BlockNumber,
    48 * released grant.schedules height =
      freeParts (sinceStart millisecsPerBlock height / month) * grant.credit.2.toNat ∧
    locked grant.schedules height ≤ grant.credit.2.toNat

/-- What the two schedules of a grant have released, in natural numbers. -/
def releasedOf (millisecs amount height : Nat) : Nat :=
  amount / 4 * min 1 ((height - 100000000) / (31104 * millisecs % 4294967296)) +
    amount / 48 * min 36
      ((height - (100000000 + 31104 * millisecs % 4294967296) % 4294967296) / (2592 * millisecs))

variable {profile : Profile} {millisecsPerBlock : BitVec 64} {accountId : AccountId}
  {amount : Balance} {grant : Grant AccountId} {millisecs quantity height : Nat}

theorem toNat_oneYear {oneMonth : BitVec 32} (months : oneMonth.toNat = 2592 * millisecs) :
    (oneMonth * 12).toNat = 31104 * millisecs % 4294967296 := by
  rw [BitVec.toNat_mul, months]
  show 2592 * millisecs * 12 % 4294967296 = _
  omega

theorem toNat_afterOneYear {oneMonth : BitVec 32} (months : oneMonth.toNat = 2592 * millisecs) :
    (startBlock + oneMonth * 12).toNat =
      (100000000 + 31104 * millisecs % 4294967296) % 4294967296 := by
  rw [BitVec.toNat_add, toNat_oneYear months]
  rfl

theorem released_eq (built : lockGrant profile millisecsPerBlock accountId amount = .ok grant)
    (height : BlockNumber) : released grant.schedules height =
      releasedOf millisecsPerBlock.toNat amount.toNat height.toNat := by
  obtain ⟨oneMonth, months, rfl⟩ := lockGrant_eq_ok built
  simp only [released, Instalments.paidAll, Instalments.paid, Instalments.periods,
    VestingSchedule.instalments, List.map_cons, List.map_nil, List.sum_cons, List.sum_nil,
    toNat_oneYear months, toNat_afterOneYear months, months, BitVec.toNat_udiv]
  rfl

theorem releasedOf_le (millisecs quantity height : Nat) :
    releasedOf millisecs quantity height ≤ quantity / 4 + 36 * (quantity / 48) := by
  have first := Nat.mul_le_mul_left (quantity / 4) (Nat.min_le_left 1
    ((height - 100000000) / (31104 * millisecs % 4294967296)))
  have second := Nat.mul_le_mul_left (quantity / 48) (Nat.min_le_left 36
    ((height - (100000000 + 31104 * millisecs % 4294967296) % 4294967296) / (2592 * millisecs)))
  rw [releasedOf]
  omega

/-- The schedules never hold more than is credited, at any block time. -/
theorem released_add_locked_le
    (built : lockGrant profile millisecsPerBlock accountId amount = .ok grant)
    (height : BlockNumber) :
    released grant.schedules height + locked grant.schedules height ≤ grant.credit.2.toNat := by
  obtain ⟨oneMonth, -, rfl⟩ := lockGrant_eq_ok built
  rw [released, locked, Instalments.paidAll_add_dueAll]
  simp only [Instalments.totalAll, Instalments.total, VestingSchedule.instalments, List.map_cons,
    List.map_nil, List.sum_cons, List.sum_nil, BitVec.toNat_udiv]
  show amount.toNat / 4 * 1 + (amount.toNat / 48 * 36 + 0) ≤ amount.toNat
  omega

theorem released_mono (schedules : List (VestingSchedule AccountId)) {lower upper : BlockNumber}
    (later : lower.toNat ≤ upper.toNat) : released schedules lower ≤ released schedules upper :=
  Instalments.paidAll_mono _ later

theorem released_add_locked_append (first second : List (VestingSchedule AccountId))
    (height : BlockNumber) :
    released (first ++ second) height + locked (first ++ second) height =
      (released first height + locked first height) +
        (released second height + locked second height) := by
  simp only [released, locked, Instalments.paidAll_add_dueAll, Instalments.totalAll,
    List.map_append, List.sum_append]

/-- The pallet never holds more of the genesis than is credited beside the root account. -/
theorem genesis_locked_le {fromSs58check : String → Option AccountId} {sudoAddress : String}
    {rows : List (String × Balance)} {config : GenesisConfig AccountId}
    (built : genesisConfig fromSs58check profile millisecsPerBlock sudoAddress rows = .ok config)
    (height : BlockNumber) :
    released config.vesting height + locked config.vesting height ≤
      (config.balances.tail.map (·.2.toNat)).sum := by
  obtain ⟨grants, each, credits, schedules⟩ := genesisConfig_eq_ok built
  rw [credits, schedules]
  clear credits schedules
  induction grants with
  | nil => exact Nat.le_refl 0
  | cons grant rest ih =>
    obtain ⟨accountId, amount, first⟩ := each grant List.mem_cons_self
    have own := released_add_locked_le first height
    have others := ih fun grant mem => each grant (List.mem_cons_of_mem _ mem)
    rw [List.flatMap_cons, released_add_locked_append]
    simp only [List.map_cons, List.sum_cons]
    omega

/-- Within the heights, the schedules meet: nothing is released before twelve of their months, and
all that they hold from the 48th on. -/
theorem released_of_months
    (built : lockGrant profile millisecsPerBlock accountId amount = .ok grant)
    (within : 100000000 + 124416 * millisecsPerBlock.toNat < 4294967296)
    (positive : 0 < millisecsPerBlock.toNat) (height : BlockNumber) :
    (height.toNat < 100000000 + 31104 * millisecsPerBlock.toNat →
      released grant.schedules height = 0) ∧
    (100000000 + 124416 * millisecsPerBlock.toNat ≤ height.toNat →
      released grant.schedules height = amount.toNat / 4 + 36 * (amount.toNat / 48)) := by
  obtain ⟨oneMonth, months, rfl⟩ := lockGrant_eq_ok built
  have year : (oneMonth * 12).toNat = 31104 * millisecsPerBlock.toNat := by
    rw [toNat_oneYear months]
    omega
  have after : (startBlock + oneMonth * 12).toNat =
      100000000 + 31104 * millisecsPerBlock.toNat := by
    rw [toNat_afterOneYear months]
    omega
  have start : startBlock.toNat = 100000000 := rfl
  simp only [released, Instalments.paidAll, VestingSchedule.instalments, List.map_cons,
    List.map_nil, List.sum_cons, List.sum_nil, year, after, months, start]
  constructor
  · intro early
    rw [Instalments.paid_eq_zero early, Instalments.paid_eq_zero (by simp only; omega)]
    rfl
  · intro late
    rw [Instalments.paid_eq_total (by simp only; omega) (by simp; omega),
      Instalments.paid_eq_total (by simp only; omega) (by simp; omega)]
    simp only [Instalments.total, BitVec.toNat_udiv]
    show amount.toNat / 4 * 1 + (amount.toNat / 48 * 36 + 0) = _
    omega

theorem onCalendar_iff_releasedOf
    (built : lockGrant profile millisecsPerBlock accountId amount = .ok grant) :
    grant.OnCalendar millisecsPerBlock ↔ ∀ height < 4294967296,
      48 * releasedOf millisecsPerBlock.toNat amount.toNat height =
        freeParts ((height - 100000000) * millisecsPerBlock.toNat / month) * amount.toNat := by
  have credited : grant.credit.2 = amount := by
    obtain ⟨-, -, rfl⟩ := lockGrant_eq_ok built
    rfl
  constructor
  · intro calendar height bound
    have due := (calendar (.ofNat 32 height)).1
    rw [released_eq built, credited, sinceStart, BitVec.toNat_ofNat,
      Nat.mod_eq_of_lt bound] at due
    exact due
  · intro calendar height
    have within := released_add_locked_le built height
    refine ⟨?_, by omega⟩
    rw [released_eq built, credited]
    exact calendar height.toNat height.isLt

/-! ### When the calendar is kept -/

/-- The height is due a part of the quantity that is not what was released at it. -/
def Missed (millisecs quantity height : Nat) : Prop :=
  height < 4294967296 ∧ 48 * releasedOf millisecs quantity height ≠
    freeParts ((height - 100000000) * millisecs / month) * quantity

/-- Below a second a block, twelve months of blocks are over before a year is. -/
theorem missed_before_year (positive : 0 < millisecs) (fast : millisecs < 1000)
    (quarter : 4 ≤ quantity) : Missed millisecs quantity (100000000 + 31104 * millisecs) := by
  have square : millisecs * millisecs < 1000000 := by nlinarith
  have elapsed : 100000000 + 31104 * millisecs - 100000000 = 31104 * millisecs := by omega
  have early : 31104 * millisecs * millisecs / month < 12 := by
    rw [Nat.div_lt_iff_lt_mul (by decide), Nat.mul_assoc, month]
    omega
  have year : 31104 * millisecs % 4294967296 = 31104 * millisecs := Nat.mod_eq_of_lt (by omega)
  refine ⟨by omega, ?_⟩
  rw [releasedOf, elapsed, freeParts, if_pos early, year, Nat.div_self (by omega), Nat.min_self,
    Nat.mul_one, Nat.zero_mul]
  omega

/-- The blocks by which thirteen months are over. -/
theorem exists_thirteen_months (slow : 1000 < millisecs) :
    ∃ blocks ≤ 33662338, 33696000000 ≤ blocks * millisecs := by
  have few : 33696000000 / millisecs ≤ 33662337 :=
    (Nat.div_le_div_left slow (by decide)).trans (by decide)
  have whole := Nat.lt_mul_div_succ 33696000000 (show 0 < millisecs by omega)
  exact ⟨33696000000 / millisecs + 1, Nat.succ_le_succ few, by rw [Nat.mul_comm]; exact whole.le⟩

/-- Above a second a block, a year and a month are over before the second schedule releases its
first part. -/
theorem missed_after_thirteen_months (slow : 1000 < millisecs)
    (fits : 2592 * millisecs < 4294967296) (some : 0 < quantity) :
    ∃ height, Missed millisecs quantity height := by
  obtain ⟨blocks, few, passed⟩ := exists_thirteen_months slow
  have elapsed : 100000000 + blocks - 100000000 = blocks := by omega
  have late : 13 ≤ blocks * millisecs / month := by
    rw [Nat.le_div_iff_mul_le (by decide), month]
    omega
  have parts : 13 ≤ freeParts (blocks * millisecs / month) := by
    rw [freeParts, if_neg (by omega)]
    omega
  have none : (100000000 + blocks - (100000000 + 31104 * millisecs % 4294967296) % 4294967296) /
      (2592 * millisecs) = 0 := by
    apply Nat.div_eq_of_lt
    by_cases wraps : 100000000 + 31104 * millisecs < 4294967296
    · rw [Nat.mod_eq_of_lt (show 31104 * millisecs < 4294967296 by omega), Nat.mod_eq_of_lt wraps]
      omega
    · -- from block 0 on, such long periods are not over either
      have long : 100000000 + blocks < 2592 * millisecs := by omega
      exact (Nat.sub_le _ _).trans_lt long
  have first := Nat.mul_le_mul_left (quantity / 4) (Nat.min_le_left 1
    (blocks / (31104 * millisecs % 4294967296)))
  have due := Nat.mul_le_mul_right quantity parts
  refine ⟨100000000 + blocks, by omega, ?_⟩
  rw [releasedOf, elapsed, none, Nat.min_zero, Nat.mul_zero]
  omega

/-- A few units have no quarter, so that nothing is released of them. -/
theorem releasedOf_of_lt (few : quantity < 4) : releasedOf millisecs quantity height = 0 := by
  have most := releasedOf_le millisecs quantity height
  omega

theorem missed_of_few (slow : 8 ≤ millisecs) (some : 0 < quantity) (few : quantity < 4) :
    Missed millisecs quantity 4294967295 := by
  have late : 12 ≤ (4294967295 - 100000000) * millisecs / month := by
    rw [Nat.le_div_iff_mul_le (by decide), month]
    omega
  have parts : 12 ≤ freeParts ((4294967295 - 100000000) * millisecs / month) := by
    rw [freeParts, if_neg (by omega)]
    omega
  have due := Nat.mul_le_mul_right quantity parts
  refine ⟨by omega, ?_⟩
  rw [releasedOf_of_lt few]
  omega

/-- At a second a block, all that is released after four years is a multiple of 48. -/
theorem missed_of_not_dvd (rest : ¬48 ∣ quantity) : Missed 1000 quantity 224416000 := by
  have most := releasedOf_le 1000 quantity 224416000
  have whole : freeParts ((224416000 - 100000000) * 1000 / month) = 48 := by decide
  refine ⟨by omega, ?_⟩
  rw [whole]
  omega

/-- At a second a block the periods are months, and parts of 48 leave no remainder. -/
theorem releasedOf_of_dvd (parts : 48 ∣ quantity) (height : Nat) :
    48 * releasedOf 1000 quantity height =
      freeParts ((height - 100000000) * 1000 / month) * quantity := by
  obtain ⟨part, rfl⟩ := parts
  have months : (height - 100000000) * 1000 / month = (height - 100000000) / 2592000 := by
    rw [month]
    omega
  have share : 12 * min 1 ((height - 100000000) / 31104000) +
      min 36 ((height - 131104000) / 2592000) = freeParts ((height - 100000000) / 2592000) := by
    rw [freeParts]
    split <;> omega
  have quarter : 48 * part / 4 = part * 12 := by omega
  have month : 48 * part / 48 = part := by omega
  rw [months, ← share, releasedOf, quarter, month]
  show 48 * (part * 12 * min 1 ((height - 100000000) / 31104000) +
    part * min 36 ((height - 131104000) / 2592000)) = _
  ring

/-- With the fastest blocks no height reaches a year. -/
theorem freeParts_of_fast (fast : millisecs ≤ 7) (bound : height < 4294967296) :
    freeParts ((height - 100000000) * millisecs / month) = 0 := by
  have product : (height - 100000000) * millisecs ≤ 4194967295 * 7 :=
    Nat.mul_le_mul (by omega) fast
  refine if_pos ((Nat.div_lt_iff_lt_mul (by decide)).mpr ?_)
  rw [month]
  omega

/-- A grant is released on the calendar exactly where nothing is granted, where blocks take a
second and 48 divides the amount, and where neither the calendar nor the schedules release anything
at a height that exists. -/
theorem onCalendar_iff (positive : 0 < millisecsPerBlock.toNat)
    (built : lockGrant profile millisecsPerBlock accountId amount = .ok grant) :
    grant.OnCalendar millisecsPerBlock ↔ amount.toNat = 0 ∨
      (millisecsPerBlock.toNat = 1000 ∧ 48 ∣ amount.toNat) ∨
      (millisecsPerBlock.toNat ≤ 7 ∧ amount.toNat < 4) := by
  have fits : 2592 * millisecsPerBlock.toNat < 4294967296 := by
    obtain ⟨oneMonth, months, -⟩ := lockGrant_eq_ok built
    exact months ▸ oneMonth.isLt
  rw [onCalendar_iff_releasedOf built]
  generalize millisecsPerBlock.toNat = millisecs at positive fits ⊢
  generalize amount.toNat = quantity
  constructor
  · intro calendar
    have kept : ∀ height, ¬Missed millisecs quantity height :=
      fun height missed => missed.2 (calendar height missed.1)
    by_contra other
    simp only [not_or, not_and] at other
    obtain ⟨some, second, fast⟩ := other
    rcases Nat.lt_trichotomy millisecs 1000 with below | rfl | above
    · by_cases quarter : 4 ≤ quantity
      · exact kept _ (missed_before_year positive below quarter)
      · by_cases slow : 8 ≤ millisecs
        · exact kept _ (missed_of_few slow (by omega) (by omega))
        · exact fast (by omega) (by omega)
    · exact kept _ (missed_of_not_dvd (second rfl))
    · obtain ⟨height, missed⟩ : ∃ height, Missed millisecs quantity height :=
        missed_after_thirteen_months above fits (by omega)
      exact kept height missed
  · rintro (rfl | ⟨rfl, parts⟩ | ⟨fast, few⟩) height bound
    · rw [releasedOf_of_lt (by decide), Nat.mul_zero, Nat.mul_zero]
    · exact releasedOf_of_dvd parts height
    · rw [releasedOf_of_lt few, freeParts_of_fast fast bound, Nat.zero_mul]

end Released

/-- Blocks of a second, and three tokens: a grant has parts of 48 where 3 divides its tokens. -/
theorem onCalendar_iff_second : ∃ grant, lockGrant .debug 1000 () (3 * SSC) = .ok grant ∧
    grant.OnCalendar 1000 := by
  have built : lockGrant .debug 1000 () (3 * SSC) = .ok _ := rfl
  exact ⟨_, built, (onCalendar_iff (by decide) built).mpr (.inr (.inl ⟨rfl, by decide⟩))⟩

/-- Blocks of six seconds: a year after the start, nothing of the first grant of the table is
released. -/
theorem nothing_after_year : ∃ grant, tokenGrant some .release 6000
      ("5Dns1SVEeDqnbSm2fVUqHJPCvQFXHVsgiw28uMBwmuaoKFYi", 3_000_000) = .ok grant ∧
    sinceStart 6000 (startBlock + 5_184_000) = 12 * month ∧
    released grant.schedules (startBlock + 5_184_000) = 0 ∧ ¬grant.OnCalendar 6000 := by
  refine ⟨_, rfl, by decide, by decide, fun calendar => ?_⟩
  have due := (calendar (startBlock + 5_184_000)).1
  revert due
  decide

end SubspaceSdk.ChainSpec
