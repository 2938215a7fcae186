import Mathlib.Data.List.Basic

/-! Programs of one database session: they read and write their view of the
store, commit it or roll it back, and raise. -/

namespace RegressionDetection.Foundation

/-- What is committed, and what the session sees. -/
structure Session (Store : Type) where
  committed : Store
  current : Store

/-- A session that has just begun. -/
def Session.start (store : Store) : Session Store := ⟨store, store⟩

/-- A raised error leaves the session where it is. -/
def Transaction (Store ε α : Type) := Session Store → Except ε α × Session Store

namespace Transaction

variable {Store ε α β : Type}

instance : Monad (Transaction Store ε) where
  pure value := fun session => (.ok value, session)
  bind action next := fun session =>
    match action session with
    | (.ok value, later) => next value later
    | (.error error, later) => (.error error, later)

def raise (error : ε) : Transaction Store ε α := fun session => (.error error, session)

/-- A query. -/
def query (f : Store → α) : Transaction Store ε α := fun session => (.ok (f session.current), session)

/-- A statement that changes the store. -/
def statement (f : Store → α × Store) : Transaction Store ε α := fun session =>
  ((.ok (f session.current).1), { session with current := (f session.current).2 })

/-- A statement that may raise; its changes are then lost. -/
def attempt (f : Store → Except ε (α × Store)) : Transaction Store ε α := fun session =>
  match f session.current with
  | .ok (value, next) => (.ok value, { session with current := next })
  | .error error => (.error error, session)

def commit : Transaction Store ε Unit := fun session =>
  (.ok (), { session with committed := session.current })

/-- The outcome of a program run on its own session, and the store it leaves committed. -/
def execute (action : Transaction Store ε α) (store : Store) : Except ε α × Store :=
  let (outcome, session) := action (Session.start store)
  (outcome, session.committed)

theorem bind_apply (action : Transaction Store ε α) (next : α → Transaction Store ε β)
    (session : Session Store) :
    (action >>= next) session =
      match action session with
      | (.ok value, later) => next value later
      | (.error error, later) => (.error error, later) := rfl

theorem map_apply (f : α → β) (action : Transaction Store ε α) (session : Session Store) :
    (f <$> action) session =
      match action session with
      | (.ok value, later) => (.ok (f value), later)
      | (.error error, later) => (.error error, later) := rfl

section Relations

variable {R failed : Session Store → Session Store → Prop}
  {Q : α → Session Store → Session Store → Prop} {S : β → Session Store → Session Store → Prop}

/-- Started in related sessions, the program has one outcome; the sessions it leaves
are related through the value returned, or as after a failure. -/
def Alike (R failed : Session Store → Session Store → Prop) (action : Transaction Store ε α)
    (Q : α → Session Store → Session Store → Prop) : Prop :=
  ∀ first second, R first second → (action first).1 = (action second).1 ∧
    match (action first).1 with
    | .ok value => Q value (action first).2 (action second).2
    | .error _ => failed (action first).2 (action second).2

theorem Alike.pure {value : α} (related : ∀ first second, R first second → Q value first second) :
    Alike R failed (Pure.pure value : Transaction Store ε α) Q :=
  fun first second start => ⟨rfl, related first second start⟩

theorem Alike.raise {error : ε} (related : ∀ first second, R first second → failed first second) :
    Alike R failed (Transaction.raise error) Q :=
  fun first second start => ⟨rfl, related first second start⟩

theorem Alike.bind {action : Transaction Store ε α} {next : α → Transaction Store ε β}
    (one : Alike R failed action Q) (others : ∀ value, Alike (Q value) failed (next value) S) :
    Alike R failed (action >>= next) S := by
  intro first second start
  obtain ⟨same, related⟩ := one first second start
  rw [bind_apply, bind_apply]
  rcases left : action first with ⟨outcome, later⟩
  rcases right : action second with ⟨other, after⟩
  rw [left] at same related
  rw [right] at same related
  cases same
  cases outcome with
  | ok value => exact others value later after related
  | error error => exact ⟨rfl, related⟩

theorem Alike.map {action : Transaction Store ε α} {f : α → β} (one : Alike R failed action Q)
    (related : ∀ value first second, Q value first second → S (f value) first second) :
    Alike R failed (f <$> action) S :=
  one.bind fun value => .pure (related value)

/-- A query that sees the same in related sessions. -/
theorem Alike.query {f : Store → α}
    (same : ∀ first second, R first second → f first.current = f second.current) :
    Alike R failed (Transaction.query f : Transaction Store ε α) fun value first second =>
      R first second ∧ f first.current = value ∧ f second.current = value :=
  fun first second start => ⟨congrArg Except.ok (same first second start),
    start, rfl, (same first second start).symm⟩

end Relations

end Transaction

end RegressionDetection.Foundation
