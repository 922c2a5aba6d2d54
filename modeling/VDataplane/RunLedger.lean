import VDataplane.GuardedRun

namespace VDataplane.GuardedRun

/-!
# Ledgers of runs

What the steps of a run amount to together, in any commutative monoid: counts,
multisets, or several of them side by side.  A quantity that every step changes by
what the ledger books for it is, after the run, out by what the ledger adds up to.
-/

section Ledger

variable
  {State Action Amount : Type*}
  [AddCommMonoid Amount]
  {step : State → Action → State}

/-- What all steps of a run amount to. -/
def total
    (step : State → Action → State)
    (amount : State → Action → Amount) :
    State → List Action → Amount
  | _, [] =>
      0
  | state, action :: rest =>
      amount state action + total step amount (step state action) rest

@[simp] theorem total_nil
    (amount : State → Action → Amount)
    (state : State) :
    total step amount state [] = 0 :=
  rfl

@[simp] theorem total_cons
    (amount : State → Action → Amount)
    (state : State)
    (action : Action)
    (rest : List Action) :
    total step amount state (action :: rest) =
      amount state action + total step amount (step state action) rest :=
  rfl

/--
The ledger rule: when, under an invariant, every step leaves a quantity short of
what the ledger books for it, the run leaves it short of the total.
-/
theorem run_add_total
    {invariant : State → Prop}
    {quantity : State → Amount}
    {amount : State → Action → Amount}
    (preserved :
      ∀ state action, invariant state → invariant (step state action))
    (booked :
      ∀ state action,
        invariant state →
        quantity (step state action) + amount state action =
          quantity state)
    {initial : State}
    (atStart : invariant initial)
    (actions : List Action) :
    quantity (run step initial actions) + total step amount initial actions =
      quantity initial := by
  induction actions generalizing initial with
  | nil =>
      exact add_zero (quantity initial)
  | cons action rest inductionHypothesis =>
      have later :=
        inductionHypothesis (preserved initial action atStart)
      calc
        quantity (run step initial (action :: rest)) +
              total step amount initial (action :: rest) =
            quantity (run step (step initial action) rest) +
                total step amount (step initial action) rest +
              amount initial action := by
          rw [run_cons, total_cons, add_comm (amount initial action),
            add_assoc]
        _ = quantity (step initial action) + amount initial action := by
          rw [later]
        _ = quantity initial := booked initial action atStart

end Ledger

end VDataplane.GuardedRun
