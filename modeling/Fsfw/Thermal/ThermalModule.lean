import Fsfw.Library.Arbitration
import Fsfw.Thermal.Heater

/-!
# Thermal modules

A thermal module has sensors, components and a redundant heater.  In each cycle the components ask
for the heater to be on or off, or do not care, and the module decides.  The components that the
decision goes against are told that their state is ignored.

The decision follows the strongest request of the first priority at which a component cares, and the
module's own request when no component does (`ThermalModule.performMode_arbitrates`).

The numbers are those of a type `T` with the operations of the source.
-/

namespace ThermalComponentIF

inductive Priority where
  | safe
  | idle
  | payload
  deriving DecidableEq, Repr

def Priority.index : Priority → ℕ
  | .safe => 0
  | .idle => 1
  | .payload => 2

def numberOfPriorities : ℕ := 3

/-- The requests are ordered by priority, the lowest have the highest priority. -/
inductive HeaterRequest where
  | emergencyOff
  | emergencyOn
  | off
  | on
  | dontCare
  deriving DecidableEq, Repr

namespace HeaterRequest

def toNat : HeaterRequest → ℕ
  | emergencyOff => 0
  | emergencyOn => 1
  | off => 2
  | on => 3
  | dontCare => 4

theorem toNat_injective :
  Function.Injective toNat
  := by
  intro a b h
  cases a with
  | _ =>
      cases b with
      | _ => first | rfl | cases h

instance : LinearOrder HeaterRequest := LinearOrder.lift' toNat toNat_injective

instance : OrderTop HeaterRequest where
  top := dontCare
  le_top := by
    intro a
    change a.toNat ≤ 4
    cases a with
    | _ => decide

end HeaterRequest

end ThermalComponentIF

open ThermalComponentIF

namespace ThermalModuleIF

inductive Strategy where
  | passive
  | activeSurvival
  | activeSingle
  | activeDual
  deriving DecidableEq, Repr

inductive State where
  | nonOperational
  | operational
  | unknown
  deriving DecidableEq, Repr

def stateRequestHeating : Int8 := 1

end ThermalModuleIF

open ThermalModuleIF

structure RedundantHeater where
  heater0 : Heater
  heater1 : Heater
  deriving DecidableEq, Repr

def RedundantHeater.set (h : RedundantHeater) (on both passive : Bool) (power : PowerSwitcher) :
    RedundantHeater :=
  if on then
    let (result, heater0) := h.heater0.set power
    if result ≠ .ok ∨ both then
      { heater0, heater1 := (h.heater1.set power).2 }
    else
      { heater0, heater1 := h.heater1.clear passive power }
  else
    { heater0 := h.heater0.clear passive power, heater1 := h.heater1.clear passive power }

/-- A component that is registered with a module. -/
structure ComponentData (T : Type*) where
  lowerOpLimit : T
  priority : Priority
  request : HeaterRequest := .dontCare

structure ThermalModule (T : Type*) where
  oldStrategy : Strategy := .activeSingle
  survivalTargetTemp : T
  targetTemp : T
  heating : Bool := false
  heaterOn : T
  hysteresis : T
  moduleTemperature : T
  moduleTemperatureIsValid : Bool := false
  heater : Option RedundantHeater
  currentState : State := .unknown
  currentStateIsValid : Bool := false
  targetState : Int8
  components : List (ComponentData T) := []

namespace ThermalModule

inductive Informee where
  | all
  | safe
  | none
  deriving DecidableEq, Repr

section

variable {T : Type*} [IntCast T]

def invalidTemperature : T := ((999 : ℤ) : T)

def registerComponent (m : ThermalModule T) (lowerOpLimit : T) (priority : Priority) :
    ThermalModule T :=
  { m with components := m.components ++ [{ lowerOpLimit, priority }] }

variable [Add T] [Div T]

/-- The mean of the temperatures of the valid sensors. -/
def calculateTemperature (m : ThermalModule T) (sensors : List (Option T)) : ThermalModule T :=
  let (sum, numberOfValidSensors) :=
    (sensors.filterMap id).foldl (fun (sum, n) t => (sum + t, n + 1)) (((0 : ℤ) : T), (0 : UInt32))
  if numberOfValidSensors ≠ 0 then
    { m with
      moduleTemperature := sum / ((numberOfValidSensors.toNat : ℤ) : T)
      moduleTemperatureIsValid := true }
  else
    { m with moduleTemperature := invalidTemperature, moduleTemperatureIsValid := false }

variable [LT T] [DecidableLT T]

def updateTargetTemperatures (m : ThermalModule T) (lowerOpLimit : T) (isSafe : Bool) :
    ThermalModule T :=
  if isSafe then
    if m.survivalTargetTemp < lowerOpLimit then
      { m with survivalTargetTemp := lowerOpLimit }
    else
      m
  else if m.targetTemp < lowerOpLimit then
    { m with targetTemp := lowerOpLimit }
  else
    m

/-- The loop over the components, from a position on, with the strongest requests so far.  The
component at a position requests what is given for the position. -/
def letComponentsPerform (performOperation : ℕ → HeaterRequest) :
    ℕ → List (ComponentData T) → ThermalModule T → (ℕ → HeaterRequest) →
      List (ComponentData T) × ThermalModule T × (ℕ → HeaterRequest)
  | _, [], m, heaterRequests => ([], m, heaterRequests)
  | i, c :: cs, m, heaterRequests =>
      let m := m.updateTargetTemperatures c.lowerOpLimit (c.priority = .safe)
      let request := performOperation i
      let heaterRequests :=
        if request ≠ .dontCare then
          if request < heaterRequests c.priority.index then
            Function.update heaterRequests c.priority.index request
          else
            heaterRequests
        else
          heaterRequests
      let (cs, m, heaterRequests) :=
        letComponentsPerform performOperation (i + 1) cs m heaterRequests
      ({ c with request } :: cs, m, heaterRequests)

/-- The loop over the priorities `i, …, 1`. -/
def passOnRequests : ℕ → (ℕ → HeaterRequest) → (ℕ → HeaterRequest)
  | 0, heaterRequests => heaterRequests
  | i + 1, heaterRequests =>
      passOnRequests i
        (if heaterRequests i = .dontCare then
          Function.update heaterRequests i (heaterRequests (i + 1))
        else
          heaterRequests)

-- The misspelling is the source's.
def letComponentsPerformAndDeciceIfWeNeedToHeat (m : ThermalModule T)
    (performOperation : ℕ → HeaterRequest) (safeOnly : Bool) : HeaterRequest × ThermalModule T :=
  let m := { m with survivalTargetTemp := ((-999 : ℤ) : T), targetTemp := ((-999 : ℤ) : T) }
  let (components, m, heaterRequests) :=
    letComponentsPerform performOperation 0 m.components m fun _ => .dontCare
  let heaterRequests :=
    if safeOnly then heaterRequests else passOnRequests (numberOfPriorities - 1) heaterRequests
  (heaterRequests 0, { m with components })

/-- The positions of the components that are marked as ignored, from a position on. -/
def informComponentsAboutHeaterState (heaterIsOn : Bool) (whomToInform : Informee) :
    ℕ → List (ComponentData T) → List ℕ
  | _, [] => []
  | i, c :: cs =>
      let rest := informComponentsAboutHeaterState heaterIsOn whomToInform (i + 1) cs
      if whomToInform = .none ∨ (whomToInform = .safe ∧ c.priority ≠ .safe) then
        i :: rest
      else if heaterIsOn then
        if c.request = .emergencyOff ∨ c.request = .off then i :: rest else rest
      else if c.request = .emergencyOn ∨ c.request = .on then
        i :: rest
      else
        rest

variable [LE T] [DecidableLE T] [BEq T]

def calculateModuleHeaterRequestAndSetModuleStatus (m : ThermalModule T) (strategy : Strategy) :
    Bool × ThermalModule T :=
  let m := { m with currentStateIsValid := true }
  if m.moduleTemperature == invalidTemperature then
    (false, { m with currentState := .unknown })
  else
    let limit := if strategy = .activeSurvival then m.survivalTargetTemp else m.targetTemp
    let currentState : State :=
      if limit ≤ m.moduleTemperature then .operational else .nonOperational
    let limit := limit + m.heaterOn
    let limit := if m.heating then limit + m.hysteresis else limit
    let heaterRequest : Bool :=
      if m.targetState = stateRequestHeating then m.moduleTemperature < limit else false
    (heaterRequest, { m with currentState, heating := heaterRequest })

/-- One cycle in a mode: the module then, and the positions of the components that are marked as
ignored. -/
def performMode (m : ThermalModule T) (strategy : Strategy) (sensors : List (Option T))
    (performOperation : ℕ → HeaterRequest) (power : PowerSwitcher) : ThermalModule T × List ℕ :=
  let m := m.calculateTemperature sensors
  let safeOnly : Bool := strategy = .activeSurvival
  let (componentHeaterRequest, m) :=
    m.letComponentsPerformAndDeciceIfWeNeedToHeat performOperation safeOnly
  match m.heater with
  | none => (m, informComponentsAboutHeaterState false .none 0 m.components)
  | some heater =>
      let (heating, m) := m.calculateModuleHeaterRequestAndSetModuleStatus strategy
      -- components overwrite the module request
      let heating : Bool :=
        if componentHeaterRequest ≠ .dontCare then
          componentHeaterRequest = .on ∨ componentHeaterRequest = .emergencyOn
        else
          heating
      let dual : Bool := strategy = .activeDual
      if strategy = .passive then
        let heater := if m.oldStrategy ≠ .passive then heater.set false false true power else heater
        ({ m with heater := some heater, oldStrategy := strategy },
          informComponentsAboutHeaterState false .none 0 m.components)
      else
        ({ m with heater := some (heater.set heating dual false power), oldStrategy := strategy },
          informComponentsAboutHeaterState heating (if safeOnly then .safe else .all) 0
            m.components)

end

/-! ### Arbitration -/

section

variable {T : Type*} (performOperation : ℕ → HeaterRequest)

/-- The requests of the components in a cycle, with the indices of their priorities. -/
def requests (performOperation : ℕ → HeaterRequest) (cs : List (ComponentData T)) (i : ℕ) :
    List (ℕ × HeaterRequest) :=
  (cs.zipIdx i).map fun c => (c.1.priority.index, performOperation c.2)

/-- The decision: to heat when it is asked for, or when nobody cares and the module asks for it. -/
def Heats (request : HeaterRequest) (moduleRequest : Bool) : Prop :=
  request = .on ∨ request = .emergencyOn ∨ (request = .dontCare ∧ moduleRequest = true)

/-- Components overwrite the module request. -/
theorem heats_iff (request : HeaterRequest) (moduleRequest : Bool) :
  (if request ≠ .dontCare then decide (request = .on ∨ request = .emergencyOn) else moduleRequest)
      = true
    ↔ Heats request moduleRequest
  := by
  rw [Heats]
  cases request with
  | dontCare => simp only [ne_eq, not_true, if_false, reduceCtorEq, true_and, false_or]
  | _ => simp

/-- The decision goes against a request. -/
def Opposes (heats : Bool) (request : HeaterRequest) : Prop :=
  if heats then
    request = .emergencyOff ∨ request = .off
  else
    request = .emergencyOn ∨ request = .on
  deriving Decidable

/-- A component is ignored when the strategy does not address it, or the decision goes against its
request. -/
def IsIgnored (strategy : Strategy) (heats : Bool) (priority : Priority)
    (request : HeaterRequest) : Prop :=
  (strategy = .activeSurvival ∧ priority ≠ .safe) ∨ Opposes heats request
  deriving Decidable

/-- The positions of the components that are ignored. -/
def ignored (strategy : Strategy) (heats : Bool) (performOperation : ℕ → HeaterRequest)
    (cs : List (ComponentData T)) (i : ℕ) : List ℕ :=
  ((cs.zipIdx i).filter fun c =>
    IsIgnored strategy heats c.1.priority (performOperation c.2)).map Prod.snd

theorem ignored_cons (strategy : Strategy) (heats : Bool) (c : ComponentData T)
    (cs : List (ComponentData T)) (i : ℕ) :
  ignored strategy heats performOperation (c :: cs) i
    = (if IsIgnored strategy heats c.priority (performOperation i) then [i] else [])
      ++ ignored strategy heats performOperation cs (i + 1)
  := by
  rw [ignored, ignored, List.zipIdx_cons, List.filter_cons]
  dsimp only
  by_cases h : IsIgnored strategy heats c.priority (performOperation i)
  · rw [if_pos (decide_eq_true h), if_pos h]
    rfl
  · rw [if_neg (by rwa [decide_eq_true_eq]), if_neg h]
    rfl

/-- The first component is marked when it is not addressed, or the decision goes against its
request. -/
theorem informComponentsAboutHeaterState_cons (heats : Bool) (whomToInform : Informee) (i : ℕ)
    (c : ComponentData T) (cs : List (ComponentData T)) :
  informComponentsAboutHeaterState heats whomToInform i (c :: cs)
    = (if (whomToInform = .none ∨ (whomToInform = .safe ∧ c.priority ≠ .safe))
          ∨ Opposes heats c.request then [i] else [])
      ++ informComponentsAboutHeaterState heats whomToInform (i + 1) cs
  := by
  rw [informComponentsAboutHeaterState]
  by_cases haddressed : whomToInform = .none ∨ (whomToInform = .safe ∧ c.priority ≠ .safe)
  · rw [if_pos haddressed, if_pos (Or.inl haddressed)]
    rfl
  · simp only [haddressed, if_false, false_or]
    cases heats with
    | true =>
        simp only [Opposes, if_true]
        split_ifs
        · rfl
        · rfl
    | false =>
        simp only [Opposes, Bool.false_eq_true, if_false]
        split_ifs
        · rfl
        · rfl

/-- The components that are marked in an active strategy are those that are ignored. -/
theorem informComponentsAboutHeaterState_eq_ignored (strategy : Strategy) (heats : Bool) (i : ℕ)
    (cs : List (ComponentData T)) :
  informComponentsAboutHeaterState heats
      (if strategy = .activeSurvival then .safe else .all) i
      ((cs.zipIdx i).map fun c => { c.1 with request := performOperation c.2 })
    = ignored strategy heats performOperation cs i
  := by
  induction cs generalizing i with
  | nil => rfl
  | cons c cs ih =>
      rw [List.zipIdx_cons, List.map_cons, informComponentsAboutHeaterState_cons, ih, ignored_cons]
      congr 1
      apply if_congr _ rfl rfl
      rw [IsIgnored]
      by_cases h : strategy = .activeSurvival
      · simp only [h, if_true, reduceCtorEq, false_or, true_and]
      · simp only [h, if_false, reduceCtorEq, false_or, false_and]

/-- Without an active heater all components are marked. -/
theorem informComponentsAboutHeaterState_none (heats : Bool) (i : ℕ)
    (cs : List (ComponentData T)) :
  informComponentsAboutHeaterState heats .none i cs = List.range' i cs.length
  := by
  induction cs generalizing i with
  | nil => rfl
  | cons c cs ih =>
      rw [informComponentsAboutHeaterState_cons, ih, if_pos (Or.inl (Or.inl rfl)), List.length_cons,
        List.range'_succ]
      rfl

section

variable [IntCast T] [Add T] [Div T]

theorem heater_calculateTemperature (m : ThermalModule T) (sensors : List (Option T)) :
  (m.calculateTemperature sensors).heater = m.heater
  := by
  rw [calculateTemperature]
  dsimp only
  split_ifs
  · rfl
  · rfl

theorem components_calculateTemperature (m : ThermalModule T) (sensors : List (Option T)) :
  (m.calculateTemperature sensors).components = m.components
  := by
  rw [calculateTemperature]
  dsimp only
  split_ifs
  · rfl
  · rfl

end

variable [LT T] [DecidableLT T]

/-- The loop over the components records their requests. -/
theorem heaterRequests_letComponentsPerform (i : ℕ) (cs : List (ComponentData T))
    (m : ThermalModule T) (heaterRequests : ℕ → HeaterRequest) :
  (letComponentsPerform performOperation i cs m heaterRequests).2.2
    = (requests performOperation cs i).foldl Arbitration.record heaterRequests
  := by
  induction cs generalizing i m heaterRequests with
  | nil => rfl
  | cons c cs ih =>
      rw [letComponentsPerform]
      dsimp only
      rw [ih, requests, requests, List.zipIdx_cons, List.map_cons, List.foldl_cons]
      congr 1
      rw [Arbitration.record]
      split_ifs with hcare hless hless
      · rfl
      · rfl
      · rw [not_not.mp hcare] at hless
        cases not_top_lt hless
      · rfl

theorem components_letComponentsPerform (i : ℕ) (cs : List (ComponentData T))
    (m : ThermalModule T) (heaterRequests : ℕ → HeaterRequest) :
  (letComponentsPerform performOperation i cs m heaterRequests).1
    = (cs.zipIdx i).map fun c => { c.1 with request := performOperation c.2 }
  := by
  induction cs generalizing i m heaterRequests with
  | nil => rfl
  | cons c cs ih =>
      rw [letComponentsPerform]
      dsimp only
      rw [ih]
      rfl

theorem heater_updateTargetTemperatures (m : ThermalModule T) (lowerOpLimit : T) (isSafe : Bool) :
  (m.updateTargetTemperatures lowerOpLimit isSafe).heater = m.heater
  := by
  rw [updateTargetTemperatures]
  split_ifs
  · rfl
  · rfl
  · rfl
  · rfl

theorem heater_letComponentsPerform (i : ℕ) (cs : List (ComponentData T))
    (m : ThermalModule T) (heaterRequests : ℕ → HeaterRequest) :
  (letComponentsPerform performOperation i cs m heaterRequests).2.1.heater = m.heater
  := by
  induction cs generalizing i m heaterRequests with
  | nil => rfl
  | cons c cs ih =>
      rw [letComponentsPerform]
      dsimp only
      rw [ih, heater_updateTargetTemperatures]

theorem heater_letComponents [IntCast T] (m : ThermalModule T) (safeOnly : Bool) :
  (m.letComponentsPerformAndDeciceIfWeNeedToHeat performOperation safeOnly).2.heater = m.heater
  := by
  apply heater_letComponentsPerform

theorem components_letComponents [IntCast T] (m : ThermalModule T) (safeOnly : Bool) :
  (m.letComponentsPerformAndDeciceIfWeNeedToHeat performOperation safeOnly).2.components
    = (m.components.zipIdx 0).map fun c => { c.1 with request := performOperation c.2 }
  := by
  apply components_letComponentsPerform

theorem passOnRequests_eq (i : ℕ) (heaterRequests : ℕ → HeaterRequest) :
  passOnRequests i heaterRequests = Arbitration.handUp i heaterRequests
  := by
  induction i generalizing heaterRequests with
  | zero => rfl
  | succ i ih =>
      rw [passOnRequests, ih, Arbitration.handUp, Arbitration.takeOver]
      congr 1
      split_ifs with h h' h'
      · rfl
      · cases h' h
      · cases h h'
      · rfl

/-- The index of the last priority that a strategy considers. -/
def lastConsidered (strategy : Strategy) : ℕ :=
  if strategy = .activeSurvival then Priority.safe.index else Priority.payload.index

variable [IntCast T]

/-- The request that the components are found to make is the one that decides. -/
theorem decides_letComponents (m : ThermalModule T) (strategy : Strategy) :
  Arbitration.Decides (requests performOperation m.components 0) (lastConsidered strategy)
    (m.letComponentsPerformAndDeciceIfWeNeedToHeat performOperation
      (strategy = .activeSurvival)).1
  := by
  rw [letComponentsPerformAndDeciceIfWeNeedToHeat]
  dsimp only
  rw [heaterRequests_letComponentsPerform]
  have hrecord : (requests performOperation m.components 0).foldl Arbitration.record
      (fun _ => HeaterRequest.dontCare)
      = Arbitration.strongest (requests performOperation m.components 0) := by
    funext i
    rw [Arbitration.foldl_record]
    apply top_inf_eq
  rw [hrecord]
  have hdecides := Arbitration.decides_deciding (requests performOperation m.components 0)
    (lastConsidered strategy)
  rw [lastConsidered] at hdecides ⊢
  by_cases h : strategy = .activeSurvival
  · simp only [h, decide_true, if_true] at hdecides ⊢
    exact hdecides
  · simp only [h, decide_false, Bool.false_eq_true, if_false] at hdecides ⊢
    rw [passOnRequests_eq, numberOfPriorities, Arbitration.handUp_zero]
    exact hdecides

variable [Add T] [LE T] [DecidableLE T] [BEq T]

/-- The module asks for heating exactly when it is set to heat, knows its temperature, and is too
cold: below the target for the strategy and the margins of the parameters. -/
theorem calculateModuleHeaterRequest_iff (m : ThermalModule T) (strategy : Strategy) :
  (m.calculateModuleHeaterRequestAndSetModuleStatus strategy).1 = true
    ↔ (m.moduleTemperature == invalidTemperature) = false
      ∧ m.targetState = stateRequestHeating
      ∧ let limit :=
          (if strategy = .activeSurvival then m.survivalTargetTemp else m.targetTemp) + m.heaterOn
        m.moduleTemperature < if m.heating then limit + m.hysteresis else limit
  := by
  rw [calculateModuleHeaterRequestAndSetModuleStatus]
  dsimp only
  cases hinvalid : m.moduleTemperature == invalidTemperature with
  | true => simp only [if_true, Bool.false_eq_true, Bool.true_eq_false, false_and]
  | false =>
      simp only [Bool.false_eq_true, if_false, true_and]
      by_cases htarget : m.targetState = stateRequestHeating
      · simp only [htarget, if_true, true_and, decide_eq_true_eq]
      · simp only [htarget, if_false, false_and, Bool.false_eq_true]

theorem components_calculateModuleHeaterRequest (m : ThermalModule T) (strategy : Strategy) :
  (m.calculateModuleHeaterRequestAndSetModuleStatus strategy).2.components = m.components
  := by
  rw [calculateModuleHeaterRequestAndSetModuleStatus]
  dsimp only
  split
  · rfl
  · rfl

variable [Div T]

/-- The module's own request in a cycle. -/
def moduleRequest (m : ThermalModule T) (strategy : Strategy) (sensors : List (Option T))
    (performOperation : ℕ → HeaterRequest) : Bool :=
  (((m.calculateTemperature sensors).letComponentsPerformAndDeciceIfWeNeedToHeat performOperation
    (strategy = .activeSurvival)).2.calculateModuleHeaterRequestAndSetModuleStatus strategy).1

/-- In an active strategy a module with a heater heats when the request that decides asks for it,
or nobody cares and the module asks for it, and marks the components that are ignored.  A module
without a heater marks all its components. -/
theorem performMode_arbitrates (m : ThermalModule T) {strategy : Strategy}
    (hactive : strategy ≠ .passive) (sensors : List (Option T))
    (performOperation : ℕ → HeaterRequest) (power : PowerSwitcher) :
  (∀ heater, m.heater = some heater →
    ∃ request heats,
      Arbitration.Decides (requests performOperation m.components 0) (lastConsidered strategy)
        request
      ∧ (heats = true ↔ Heats request (m.moduleRequest strategy sensors performOperation))
      ∧ (m.performMode strategy sensors performOperation power).1.heater
        = some (heater.set heats (strategy = .activeDual) false power)
      ∧ (m.performMode strategy sensors performOperation power).2
        = ignored strategy heats performOperation m.components 0)
    ∧ (m.heater = none →
      (m.performMode strategy sensors performOperation power).1.heater = none
      ∧ (m.performMode strategy sensors performOperation power).2
        = List.range' 0 m.components.length)
  := by
  have hheater := heater_letComponents performOperation
    (m.calculateTemperature sensors) (strategy = .activeSurvival)
  have hcomponents := components_letComponents performOperation
    (m.calculateTemperature sensors) (strategy = .activeSurvival)
  have hdecides := decides_letComponents performOperation
    (m.calculateTemperature sensors) strategy
  rw [heater_calculateTemperature] at hheater
  rw [components_calculateTemperature] at hcomponents hdecides
  rw [performMode, moduleRequest]
  dsimp only
  generalize (m.calculateTemperature sensors).letComponentsPerformAndDeciceIfWeNeedToHeat
      performOperation (strategy = .activeSurvival) = r at hheater hcomponents hdecides ⊢
  constructor
  · intro heater h
    rw [hheater, h]
    dsimp only
    rw [if_neg hactive]
    refine ⟨r.1, _, hdecides, heats_iff _ _, rfl, ?_⟩
    dsimp only
    rw [components_calculateModuleHeaterRequest, hcomponents]
    simp only [decide_eq_true_eq]
    apply informComponentsAboutHeaterState_eq_ignored
  · intro h
    rw [hheater, h]
    dsimp only
    use hheater.trans h
    rw [informComponentsAboutHeaterState_none, hcomponents, List.length_map, List.length_zipIdx]

theorem performMode_arbitrates_dual :
  let heater : RedundantHeater := ⟨.new 0 1 1 0, .new 2 3 1 0⟩
  let m : ThermalModule ℤ :=
    { survivalTargetTemp := 0, targetTemp := 0, heaterOn := 2, hysteresis := 1
      moduleTemperature := 0, heater := some heater, targetState := 0
      components :=
        [{ lowerOpLimit := 5, priority := .idle }, { lowerOpLimit := 3, priority := .payload }] }
  let performOperation : ℕ → HeaterRequest := fun i => if i = 0 then .emergencyOn else .emergencyOff
  let power : PowerSwitcher := ⟨0, 0, fun _ => PowerSwitchIF.switchOff⟩
  ∃ request heats,
    Arbitration.Decides (requests performOperation m.components 0) (lastConsidered .activeDual)
      request
    ∧ (heats = true ↔ Heats request (m.moduleRequest .activeDual [some 4] performOperation))
    ∧ (m.performMode .activeDual [some 4] performOperation power).1.heater
      = some (heater.set heats true false power)
    ∧ (m.performMode .activeDual [some 4] performOperation power).2
      = ignored .activeDual heats performOperation m.components 0
  := by
  intro heater m performOperation power
  apply (performMode_arbitrates m (by decide) [some 4] performOperation power).1 heater rfl

/-- Without a heater a component is marked although the decision does not go against it. -/
theorem not_performMode_arbitrates :
  ¬ ∀ (m : ThermalModule ℤ) (strategy : Strategy) (sensors : List (Option ℤ))
    (performOperation : ℕ → HeaterRequest) (power : PowerSwitcher), strategy ≠ .passive →
    ∃ request heats,
      Arbitration.Decides (requests performOperation m.components 0) (lastConsidered strategy)
        request
      ∧ (heats = true ↔ Heats request (m.moduleRequest strategy sensors performOperation))
      ∧ (m.performMode strategy sensors performOperation power).2
        = ignored strategy heats performOperation m.components 0
  := by
  intro h
  let m : ThermalModule ℤ :=
    { survivalTargetTemp := 0, targetTemp := 0, heaterOn := 2, hysteresis := 1
      moduleTemperature := 0, heater := none, targetState := 0
      components := [{ lowerOpLimit := 5, priority := .safe }] }
  obtain ⟨request, heats, hdecides, hheats, hmarked⟩ :=
    h m .activeSingle [] (fun _ => .emergencyOn) ⟨0, 0, fun _ => PowerSwitchIF.switchOff⟩ nofun
  have hrequest : request = .emergencyOn := by
    cases hdecides with
    | nobody hall => cases hall 0 (Nat.zero_le _) .emergencyOn List.mem_cons_self
    | level i hi hbefore hleast hne =>
        have hmem : (i, request) ∈ [(0, HeaterRequest.emergencyOn)] := hleast.1
        exact congrArg Prod.snd (List.mem_singleton.mp hmem)
  rw [hheats.mpr (Or.inr (Or.inl hrequest))] at hmarked
  exact absurd hmarked (by decide)

end

end ThermalModule
