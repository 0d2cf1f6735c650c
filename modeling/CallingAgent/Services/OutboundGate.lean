import CallingAgent.Services.CallingWindow

/-!
# Outbound gate — may a new call be placed at all right now

The kill switch (static setting, then the durable row), the automatic
provider halt, and the daily budget. Each is read from a store or from a
short in-process cache, so what a read returns is an input here; a store
that cannot be read blocks.
-/

namespace CallingAgent

open Lib

/-! ## Budget -/

/-- `BudgetStatus`. Durations and costs are exact rationals. -/
structure BudgetStatus where
  dials : Nat
  dialCap : Nat
  estimatedSpend : Option Rat := none
  spendCap : Option Rat := none

/-- The reason codes of the three gates. -/
inductive BlockReason where
  /-- `kill_switch_enabled` -/
  | killSwitchEnabled
  /-- `kill_switch_unavailable` -/
  | killSwitchUnavailable
  /-- `provider_halt_engaged` -/
  | providerHaltEngaged
  /-- `provider_halt_unavailable` -/
  | providerHaltUnavailable
  /-- `budget_daily_dial_cap_reached` -/
  | dailyDialCapReached
  /-- `budget_daily_spend_cap_reached` -/
  | dailySpendCapReached
  /-- `budget_unavailable` -/
  | budgetUnavailable
  deriving DecidableEq, Repr

/-- `is_budget_reason`: the code starts with `budget_`. -/
def BlockReason.isBudget : BlockReason → Bool
  | .dailyDialCapReached | .dailySpendCapReached | .budgetUnavailable => true
  | _ => false

/-- `BudgetStatus.reached` -/
def BudgetStatus.reached (b : BudgetStatus) : Option BlockReason :=
  if b.dials ≥ b.dialCap then some .dailyDialCapReached
  else
    match b.spendCap, b.estimatedSpend with
    | some cap, some spend =>
        if spend ≥ cap then some .dailySpendCapReached else none
    | _, _ => none

/-! ## The gate -/

/-- What a read of a store gave. -/
inductive Read (α : Type) where
  | value (a : α)
  /-- the read failed and the failure is reported as such -/
  | unavailable
  /-- the read raised something the reader does not handle -/
  | raised

/-- What one pass of the gate reads: `read_all` for the kill switch,
`read_all` for the provider halt, and the budget status. -/
structure GateReads where
  killSwitch : Read OutboundControls
  providerHalt : Read OutboundControls
  budget : Read BudgetStatus

/-- What a gate concludes; `raised` is an exception that leaves it. -/
inductive GateResult where
  | open
  | blocked (reason : BlockReason)
  | raised
  deriving DecidableEq, Repr

section

variable (s : Settings) (r : GateReads)

/-- `kill_switch.block_reason`. `read_all` turns every failure into
`ControlUnavailableError`, so it never raises anything else. -/
def killSwitchGate : GateResult :=
  if s.outboundKillSwitch then .blocked .killSwitchEnabled
  else
    match r.killSwitch with
    | .value c => if c.killSwitch then .blocked .killSwitchEnabled else .open
    | .unavailable | .raised => .blocked .killSwitchUnavailable

/-- `provider_halt.block_reason` -/
def providerHaltGate : GateResult :=
  match r.providerHalt with
  | .value c => if c.providerHalt then .blocked .providerHaltEngaged else .open
  | .unavailable | .raised => .blocked .providerHaltUnavailable

/-- `spend_cap.block_reason` -/
def budgetGate : GateResult :=
  match r.budget with
  | .value b =>
      match b.reached with
      | some reason => .blocked reason
      | none => .open
  | .unavailable => .blocked .budgetUnavailable
  | .raised => .raised

/-- `outbound_gate.block_reason`: the first gate that is not open. -/
def outboundGate : GateResult :=
  match killSwitchGate s r with
  | .open =>
      match providerHaltGate r with
      | .open => budgetGate r
      | other => other
  | other => other

end

/-- What the gate must have found to let a call through. -/
structure GateOpen (s : Settings) (r : GateReads) : Prop where
  envSwitchOff : s.outboundKillSwitch = false
  killSwitchOff : ∃ c, r.killSwitch = .value c ∧ c.killSwitch = false
  providerHaltOff : ∃ c, r.providerHalt = .value c ∧ c.providerHalt = false
  withinBudget : ∃ b, r.budget = .value b ∧ b.reached = none

/-- **The gate is complete**: it is open exactly when every control was
readable and off and the budget readable and not reached. -/
theorem outboundGate_open_iff {s : Settings} {r : GateReads} :
    outboundGate s r = .open ↔ GateOpen s r := by
  constructor
  · intro h
    unfold outboundGate at h
    cases hk : killSwitchGate s r with
    | blocked reason => rw [hk] at h; cases h
    | raised => rw [hk] at h; cases h
    | «open» =>
        rw [hk] at h
        cases hp : providerHaltGate r with
        | blocked reason => rw [hp] at h; cases h
        | raised => rw [hp] at h; cases h
        | «open» =>
            rw [hp] at h
            unfold killSwitchGate at hk
            unfold providerHaltGate at hp
            simp only [budgetGate] at h
            exact
              { envSwitchOff := by grind
                killSwitchOff := by grind
                providerHaltOff := by grind
                withinBudget := by grind }
  · rintro ⟨h0, ⟨c, hc, hk⟩, ⟨c', hc', hp⟩, ⟨b, hb, hr⟩⟩
    simp [outboundGate, killSwitchGate, providerHaltGate, budgetGate, h0, hc,
      hk, hc', hp, hb, hr]

/-- A stop that is engaged or unreadable blocks, whatever the budget. -/
theorem outboundGate_of_stop {s : Settings} {r : GateReads}
    (h : killSwitchGate s r ≠ .open ∨ providerHaltGate r ≠ .open) :
    outboundGate s r ≠ .open := by
  intro ho
  unfold outboundGate at ho
  cases hk : killSwitchGate s r <;> cases hp : providerHaltGate r <;>
    simp_all

end CallingAgent
