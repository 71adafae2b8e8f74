import Mathlib.Data.Sum.Order
import SupplyChain.Finance.PaymentGuard
import SupplyChain.Locking

/-!
The row locks of the financial units of work. The rows of the payment requests are locked
before those of the invoice exceptions, and each kind in ascending order of its keys, so
that units of work that lock some of the same rows never wait for each other in a circle.
-/

namespace SupplyChain.RowLocks

open Locking Relational PaymentGuard

inductive LockTarget
  | paymentRequest (id : Nat)
  | invoiceException (id : Nat)
  deriving DecidableEq

/-- The requests come before the exceptions. -/
def LockTarget.rank : LockTarget → Nat ⊕ₗ Nat
  | .paymentRequest id => toLex (Sum.inl id)
  | .invoiceException id => toLex (Sum.inr id)

theorem LockTarget.rank_injective : Function.Injective LockTarget.rank := by
  intro a b same
  cases a <;> cases b <;> simp_all [LockTarget.rank]

instance LockTarget.linearOrder : LinearOrder LockTarget :=
  LinearOrder.lift' LockTarget.rank LockTarget.rank_injective

/-! ## The locks of a unit of work -/

/-- The key of a row. -/
def isRowId (id : Number) : Bool := safeAnd id fun id => decide (0 < id)

def normalizeLockIds (ids : List Number) (message : String) : Except String (List Nat) :=
  if ids.any (fun id => !isRowId id) then .error message
  else .ok ((ids.filterMap fun id => id.map Int.toNat).dedup.mergeSort)

def normalizePaymentRequestLockIds (paymentRequestIds : List Number) : Except String (List Nat) :=
  if paymentRequestIds.isEmpty then .error "请款单ID不合法。"
  else normalizeLockIds paymentRequestIds "请款单ID不合法。"

def normalizeInvoiceExceptionLockIds (invoiceExceptionIds : List Number) :
    Except String (List Nat) :=
  if invoiceExceptionIds.isEmpty then .error "发票异常单ID不合法。"
  else normalizeLockIds invoiceExceptionIds "发票异常单ID不合法。"

structure FinancialLockInput where
  paymentRequestIds : Option (List Number) := none
  invoiceExceptionIds : Option (List Number) := none

/-- What the driver of the database can do. -/
structure Driver where
  isAliyunRuntime : Bool
  transaction : Bool
  execute : Bool

/-- The rows are locked one after another, and the work is done in the same transaction. -/
def withLockedFinancialRows {Value : Type} (db : Driver) (input : FinancialLockInput)
    (work : List Value → Option (List Value)) : Except String (Job LockTarget Value) := do
  let paymentRequestIds ← normalizeLockIds (input.paymentRequestIds.getD []) "请款单ID不合法。"
  let invoiceExceptionIds ←
    normalizeLockIds (input.invoiceExceptionIds.getD []) "发票异常单ID不合法。"
  if paymentRequestIds.isEmpty && invoiceExceptionIds.isEmpty then
    .error "财务行锁目标不能为空。"
  else if db.isAliyunRuntime = false then .error "真实财务账本写入只允许在RDS MySQL事务中执行。"
  else if db.transaction = false then .error "RDS数据库驱动不支持事务，已拒绝付款登记。"
  else if db.execute = false then .error "RDS事务不支持行锁，已拒绝付款登记。"
  else .ok {
    rows := paymentRequestIds.map .paymentRequest ++ invoiceExceptionIds.map .invoiceException
    work }

def numbers (ids : List Nat) : List Number := ids.map fun id => some (id : Int)

def withLockedPaymentRequests {Value : Type} (db : Driver) (paymentRequestIds : List Number)
    (work : List Value → Option (List Value)) : Except String (Job LockTarget Value) := do
  let ids ← normalizePaymentRequestLockIds paymentRequestIds
  withLockedFinancialRows db { paymentRequestIds := some (numbers ids) } work

def withLockedPaymentRequest {Value : Type} (db : Driver) (paymentRequestId : Number)
    (work : List Value → Option (List Value)) : Except String (Job LockTarget Value) :=
  withLockedPaymentRequests db [paymentRequestId] work

def withLockedInvoiceExceptions {Value : Type} (db : Driver) (invoiceExceptionIds : List Number)
    (work : List Value → Option (List Value)) : Except String (Job LockTarget Value) := do
  let ids ← normalizeInvoiceExceptionLockIds invoiceExceptionIds
  withLockedFinancialRows db { invoiceExceptionIds := some (numbers ids) } work

/-! ## What is locked -/

variable {Value : Type} {db : Driver} {input : FinancialLockInput} {ids : List Number}
  {message : String} {keys : List Nat} {work : List Value → Option (List Value)}
  {job : Job LockTarget Value}

theorem normalizeLockIds_ok (normalized : normalizeLockIds ids message = .ok keys) :
    keys.Pairwise (· < ·) ∧ (∀ key, key ∈ keys ↔ some (key : Int) ∈ ids) ∧
      ∀ id ∈ ids, ∃ key ∈ keys, id = some (key : Int) := by
  unfold normalizeLockIds at normalized
  split at normalized
  · cases normalized
  · rename_i accepted
    cases normalized
    have known : ∀ id ∈ ids, ∃ key : Nat, id = some (key : Int) := by
      intro id member
      by_cases valid : isRowId id = true
      · obtain ⟨number, rfl, positive⟩ := (Option.any_eq_true _ _).mp valid
        rw [Bool.and_eq_true, decide_eq_true_eq, decide_eq_true_eq] at positive
        exact ⟨number.toNat, by rw [Int.toNat_of_nonneg (Int.le_of_lt positive.2)]⟩
      · exact absurd (List.any_eq_true.mpr ⟨id, member, by simpa using valid⟩) accepted
    have members (key : Nat) :
        key ∈ ((ids.filterMap fun id => id.map Int.toNat).dedup.mergeSort) ↔
          some (key : Int) ∈ ids := by
      rw [List.mem_mergeSort, List.mem_dedup, List.mem_filterMap]
      constructor
      · rintro ⟨id, member, same⟩
        obtain ⟨number, rfl⟩ := known id member
        rw [Option.map_some, Int.toNat_natCast, Option.some.injEq] at same
        rwa [← same]
      · intro member
        exact ⟨_, member, by simp⟩
    refine ⟨?_, members, ?_⟩
    · have sorted := List.pairwise_mergeSort'
        (r := (· ≤ ·)) ((ids.filterMap fun id => id.map Int.toNat).dedup)
      have once : ((ids.filterMap fun id => id.map Int.toNat).dedup.mergeSort).Nodup :=
        (List.mergeSort_perm _ _).nodup_iff.mpr (List.nodup_dedup _)
      exact (sorted.and once).imp fun both => Nat.lt_of_le_of_ne both.1 both.2
    · intro id member
      obtain ⟨key, rfl⟩ := known id member
      exact ⟨key, (members key).mpr member, rfl⟩

/-- A unit of work locks rows of the keys that it was given, in ascending order. -/
structure Locks (input : FinancialLockInput) (job : Job LockTarget Value) : Prop where
  ascending : job.rows.Pairwise (· < ·)
  requests : ∀ id : Nat, .paymentRequest id ∈ job.rows ↔
    some (id : Int) ∈ input.paymentRequestIds.getD []
  exceptions : ∀ id : Nat, .invoiceException id ∈ job.rows ↔
    some (id : Int) ∈ input.invoiceExceptionIds.getD []
  known : ∀ id ∈ input.paymentRequestIds.getD [] ++ input.invoiceExceptionIds.getD [],
    ∃ key : Nat, id = some (key : Int)

theorem withLockedFinancialRows_ok (called : withLockedFinancialRows db input work = .ok job) :
    Locks input job ∧ job.work = work := by
  unfold withLockedFinancialRows at called
  cases first : normalizeLockIds (input.paymentRequestIds.getD []) "请款单ID不合法。" with
  | error refused =>
      rw [first] at called
      cases called
  | ok paymentRequestIds =>
      cases second :
          normalizeLockIds (input.invoiceExceptionIds.getD []) "发票异常单ID不合法。" with
      | error refused =>
          rw [first, second] at called
          cases called
      | ok invoiceExceptionIds =>
          obtain ⟨requestsSorted, requests, requestIds⟩ := normalizeLockIds_ok first
          obtain ⟨exceptionsSorted, exceptions, exceptionIds⟩ := normalizeLockIds_ok second
          rw [first, second] at called
          simp only [bind, Except.bind] at called
          split at called
          · cases called
          split at called
          · cases called
          split at called
          · cases called
          split at called
          · cases called
          cases called
          refine ⟨⟨?_, ?_, ?_, ?_⟩, rfl⟩
          · rw [List.pairwise_append, List.pairwise_map, List.pairwise_map]
            refine ⟨requestsSorted.imp ?_, exceptionsSorted.imp ?_, ?_⟩
            · intro a b less
              exact Sum.Lex.inl_lt_inl_iff.mpr less
            · intro a b less
              exact Sum.Lex.inr_lt_inr_iff.mpr less
            · intro a request b exception
              obtain ⟨left, -, rfl⟩ := List.mem_map.mp request
              obtain ⟨right, -, rfl⟩ := List.mem_map.mp exception
              exact Sum.Lex.inl_lt_inr left right
          · intro id
            rw [← requests]
            simp
          · intro id
            rw [← exceptions]
            simp
          · intro id member
            rcases List.mem_append.mp member with request | exception
            · obtain ⟨key, -, same⟩ := requestIds id request
              exact ⟨key, same⟩
            · obtain ⟨key, -, same⟩ := exceptionIds id exception
              exact ⟨key, same⟩

/-! ## Units of work at the same time -/

section

variable {Party : Type} [DecidableEq Party] {dbs : Party → Driver}
  {inputs : Party → FinancialLockInput} {works : Party → List Value → Option (List Value)}
  {jobs : Party → Job LockTarget Value} {s s' : State LockTarget Party Value}
  {moves : List (Move Party)}

/-- However the units of work that were called interleave, no row is held twice, the rows
hold what those that committed write one after another, they end after a bounded number of
moves, and from any state they can all end without one of them abandoned. -/
theorem financial_locks_complete [Fintype Party]
    (called : ∀ party,
      withLockedFinancialRows (dbs party) (inputs party) (works party) = .ok (jobs party))
    (opens : Opens jobs s) (run : Run (Locking.Step jobs) s moves s') :
    (∀ row a b, row ∈ (s'.phase a).held (jobs a) → row ∈ (s'.phase b).held (jobs b) → a = b) ∧
      ((Locking.commits moves).Nodup ∧
        s'.data = (Locking.commits moves).foldl (fun data party => (jobs party).run data) s.data) ∧
      moves.length ≤ ∑ party, ((jobs party).rows.length + 2) ∧
      ∃ rest last, Run (Advances jobs) s' rest last ∧ ∀ party, last.phase party = .finished := by
  have consistent := run_consistent run opens.consistent
  refine ⟨fun row a b => consistent.exclusive, serializable opens run, ?_, ?_⟩
  · have bound := run_left run
    rw [opens.left] at bound
    omega
  · exact completes (fun party => (withLockedFinancialRows_ok (called party)).1.ascending)
      consistent

end

/-! ### Two units of work with a row in common -/

def twoInputs : Bool → FinancialLockInput
  | false => { paymentRequestIds := some [some 2, some 1] }
  | true => { paymentRequestIds := some [some 1], invoiceExceptionIds := some [some 3] }

def twoJobs : Bool → Job LockTarget Nat
  | false => ⟨[.paymentRequest 1, .paymentRequest 2], some⟩
  | true => ⟨[.paymentRequest 1, .invoiceException 3], some⟩

theorem two_called (party : Bool) :
    withLockedFinancialRows ⟨true, true, true⟩ (twoInputs party) some = .ok (twoJobs party) := by
  cases party <;>
    simp [withLockedFinancialRows, twoInputs, twoJobs, normalizeLockIds, isRowId, safeAnd,
      isSafeInteger, maxSafeInteger, List.mergeSort, bind, Except.bind]

def twoUnlocked : State LockTarget Bool Nat where
  data _ := 0
  owner _ := none
  phase party := .locking [] (twoJobs party).rows

theorem twoUnlocked_opens : Opens twoJobs twoUnlocked := ⟨fun _ => rfl, fun _ => rfl⟩

/-- The second unit of work cannot lock the row of the first, and both end. -/
theorem financial_locks_complete_two :
    ∃ s', Run (Locking.Step twoJobs) twoUnlocked [.lock false, .lock false] s' ∧
      (s'.next twoJobs (.lock true)).isNone = true ∧
      ∃ rest last, Run (Advances twoJobs) s' rest last ∧ ∀ party, last.phase party = .finished := by
  obtain ⟨s', run, waits⟩ := Relational.replay_reaches (State.next twoJobs) (fun _ _ _ => next_step)
    twoUnlocked [Move.lock false, Move.lock false]
    (fun s' => (s'.next twoJobs (.lock true)).isNone) (by decide)
  exact ⟨s', run, waits, (financial_locks_complete two_called twoUnlocked_opens run).2.2.2⟩

end SupplyChain.RowLocks
