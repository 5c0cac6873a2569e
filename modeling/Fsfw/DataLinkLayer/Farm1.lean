import Fsfw.DataLinkLayer.VirtualChannelReception
import Fsfw.Library.Run

/-!
# The FARM-1 machine

`Farm1Transition` is the state table of the machine: what a frame of each type does in each
state to the virtual channel and to the control word, and what is returned.  The handlers of
the source have exactly the transitions of the table (`farm1Transition_iff`), and everything
about the machine is read off from it.

A run of a virtual channel is a sequence of frames, of calls of `setToWaitState` and of added
map channels.  The AD frames that are accepted along a run count up from V(R)
(`accepts_in_order`).  The control word reports the state of the machine along every run in
which the channel is not set to wait while it is locked out (`reportsState_iff`).
-/

variable {μ σ : Type*}

namespace VirtualChannelReception

/-! ### The state table -/

/-- The transitions of the machine on AD frames. -/
inductive ADTransition (vc : VirtualChannelReception μ) (clcw : Clcw)
    (frame : TcTransferFrame) : Farm1Result μ → Prop
  | accept (hs : vc.currentState = .openState)
      (hd : sequenceDiff frame.getSequenceNumber vc.vR = 0) :
      ADTransition vc clcw frame
        ({ vc with vR := vc.vR + 1 }, clcw.setRetransmitFlag false, .ok)
  | positiveWindow (hs : vc.currentState = .openState)
      (hd : 0 < sequenceDiff frame.getSequenceNumber vc.vR)
      (hw : sequenceDiff frame.getSequenceNumber vc.vR < vc.positiveWindow.toNat) :
      ADTransition vc clcw frame
        (vc, clcw.setRetransmitFlag true, CCSDSReturnValuesIF.nsPositiveW)
  | negativeWindow (hs : vc.currentState = .openState)
      (hd : sequenceDiff frame.getSequenceNumber vc.vR < 0)
      (hw : -(vc.negativeWindow.toNat : ℤ) ≤ sequenceDiff frame.getSequenceNumber vc.vR) :
      ADTransition vc clcw frame (vc, clcw, CCSDSReturnValuesIF.nsNegativeW)
  | lockout (hs : vc.currentState = .openState)
      (hd : sequenceDiff frame.getSequenceNumber vc.vR ≠ 0)
      (hw : sequenceDiff frame.getSequenceNumber vc.vR < -(vc.negativeWindow.toNat : ℤ) ∨
        vc.positiveWindow.toNat ≤ sequenceDiff frame.getSequenceNumber vc.vR) :
      ADTransition vc clcw frame
        ({ vc with currentState := .lockoutState }, clcw.setLockoutFlag true,
          CCSDSReturnValuesIF.nsLockout)
  | lockoutFromWait (hs : vc.currentState = .waitState)
      (hw : sequenceDiff frame.getSequenceNumber vc.vR < -(vc.negativeWindow.toNat : ℤ) ∨
        vc.positiveWindow.toNat ≤ sequenceDiff frame.getSequenceNumber vc.vR) :
      ADTransition vc clcw frame
        ({ vc with currentState := .lockoutState }, clcw.setLockoutFlag true,
          CCSDSReturnValuesIF.farmInWait)
  | waiting (hs : vc.currentState = .waitState)
      (hw : -(vc.negativeWindow.toNat : ℤ) ≤ sequenceDiff frame.getSequenceNumber vc.vR ∧
        sequenceDiff frame.getSequenceNumber vc.vR < vc.positiveWindow.toNat) :
      ADTransition vc clcw frame (vc, clcw, CCSDSReturnValuesIF.farmInWait)
  | lockedOut (hs : vc.currentState = .lockoutState) :
      ADTransition vc clcw frame (vc, clcw, CCSDSReturnValuesIF.farmInLockout)

/-- The content of a BC frame, and the command it is. -/
def bcContent (frame : TcTransferFrame) : BcFrame × ReturnValue :=
  BcFrame.initializeContent {} frame.getFullDataField frame.getFullDataLength

/-- The transitions of the machine on BC frames. -/
inductive BCTransition (vc : VirtualChannelReception μ) (clcw : Clcw)
    (frame : TcTransferFrame) : Farm1Result μ → Prop
  | unlockOpen (hc : (bcContent frame).2 = CCSDSReturnValuesIF.bcIsUnlockCommand)
      (hs : vc.currentState = .openState) :
      BCTransition vc clcw frame
        ({ vc with farmBCounter := vc.farmBCounter + 1 }, clcw.setRetransmitFlag false,
          CCSDSReturnValuesIF.bcIsUnlockCommand)
  | unlockWait (hc : (bcContent frame).2 = CCSDSReturnValuesIF.bcIsUnlockCommand)
      (hs : vc.currentState = .waitState) :
      BCTransition vc clcw frame
        ({ vc with farmBCounter := vc.farmBCounter + 1, currentState := .openState },
          (clcw.setRetransmitFlag false).setWaitFlag false,
          CCSDSReturnValuesIF.bcIsUnlockCommand)
  | unlockLockout (hc : (bcContent frame).2 = CCSDSReturnValuesIF.bcIsUnlockCommand)
      (hs : vc.currentState = .lockoutState) :
      BCTransition vc clcw frame
        ({ vc with farmBCounter := vc.farmBCounter + 1, currentState := .openState },
          ((clcw.setRetransmitFlag false).setLockoutFlag false).setWaitFlag false,
          CCSDSReturnValuesIF.bcIsUnlockCommand)
  | setVrOpen (hc : (bcContent frame).2 = CCSDSReturnValuesIF.bcIsSetVrCommand)
      (hs : vc.currentState = .openState) :
      BCTransition vc clcw frame
        ({ vc with farmBCounter := vc.farmBCounter + 1, vR := (bcContent frame).1.vR },
          clcw.setRetransmitFlag false, CCSDSReturnValuesIF.bcIsSetVrCommand)
  | setVrWait (hc : (bcContent frame).2 = CCSDSReturnValuesIF.bcIsSetVrCommand)
      (hs : vc.currentState = .waitState) :
      BCTransition vc clcw frame
        ({ vc with
            farmBCounter := vc.farmBCounter + 1, vR := (bcContent frame).1.vR,
            currentState := .openState },
          (clcw.setWaitFlag false).setRetransmitFlag false,
          CCSDSReturnValuesIF.bcIsSetVrCommand)
  | setVrLockout (hc : (bcContent frame).2 = CCSDSReturnValuesIF.bcIsSetVrCommand)
      (hs : vc.currentState = .lockoutState) :
      BCTransition vc clcw frame
        ({ vc with farmBCounter := vc.farmBCounter + 1 }, clcw,
          CCSDSReturnValuesIF.bcIsSetVrCommand)
  | illegalCommand (hc : (bcContent frame).2 = CCSDSReturnValuesIF.bcIllegalCommand) :
      BCTransition vc clcw frame (vc, clcw, CCSDSReturnValuesIF.bcIllegalCommand)

/-- The transitions of the machine. -/
inductive Farm1Transition (vc : VirtualChannelReception μ) (clcw : Clcw)
    (frame : TcTransferFrame) : Farm1Result μ → Prop
  | ad {r : Farm1Result μ} (hf : typeValue frame = adFrame) (h : ADTransition vc clcw frame r) :
      Farm1Transition vc clcw frame r
  | bd (hf : typeValue frame = bdFrame) :
      Farm1Transition vc clcw frame
        ({ vc with farmBCounter := vc.farmBCounter + 1 }, clcw, .ok)
  | bc {r : Farm1Result μ} (hf : typeValue frame = bcFrame) (h : BCTransition vc clcw frame r) :
      Farm1Transition vc clcw frame r
  | illegalFlags (hAD : typeValue frame ≠ adFrame) (hBD : typeValue frame ≠ bdFrame)
      (hBC : typeValue frame ≠ bcFrame) :
      Farm1Transition vc clcw frame (vc, clcw, CCSDSReturnValuesIF.illegalFlagCombination)

variable {vc : VirtualChannelReception μ} {clcw : Clcw} {frame : TcTransferFrame}
  {r : Farm1Result μ}

theorem handleADFrame_transition (vc : VirtualChannelReception μ) (frame : TcTransferFrame)
    (clcw : Clcw) :
  ADTransition vc clcw frame (vc.handleADFrame frame clcw)
  := by
  cases hs : vc.currentState with
  | openState =>
      simp only [handleADFrame, hs]
      simp only [Farm1StateOpen.handleADFrame]
      split_ifs with h₀ h₁ h₂
      · apply ADTransition.accept hs h₀
      · apply ADTransition.positiveWindow hs h₁.2 h₁.1
      · apply ADTransition.negativeWindow hs h₂.1 h₂.2
      · apply ADTransition.lockout hs h₀
        omega
  | waitState =>
      simp only [handleADFrame, hs]
      simp only [Farm1StateWait.handleADFrame]
      split_ifs with h
      · apply ADTransition.lockoutFromWait hs h
      · apply ADTransition.waiting hs
        omega
  | lockoutState =>
      simp only [handleADFrame, hs]
      simp only [Farm1StateLockout.handleADFrame]
      apply ADTransition.lockedOut hs

/-- What a BC frame does is decided by the command it is. -/
theorem handleBCFrame_eq_ite (vc : VirtualChannelReception μ) (frame : TcTransferFrame)
    (clcw : Clcw) :
  vc.handleBCFrame frame clcw =
    if (bcContent frame).2 = CCSDSReturnValuesIF.bcIsUnlockCommand then
      vc.handleBCUnlockCommand clcw
    else if (bcContent frame).2 = CCSDSReturnValuesIF.bcIsSetVrCommand then
      vc.handleBCSetVrCommand clcw (bcContent frame).1.vR
    else
      (vc, clcw, (bcContent frame).2)
  := rfl

theorem handleBCFrame_transition (vc : VirtualChannelReception μ) (frame : TcTransferFrame)
    (clcw : Clcw) :
  BCTransition vc clcw frame (vc.handleBCFrame frame clcw)
  := by
  have h := BcFrame.initializeContent_cases {} frame.getFullDataField frame.getFullDataLength
  rw [← bcContent] at h
  rw [handleBCFrame_eq_ite]
  rcases h with hc | hc | hc
  · rw [if_pos hc, handleBCUnlockCommand]
    cases hs : vc.currentState with
    | openState => apply BCTransition.unlockOpen hc hs
    | waitState => apply BCTransition.unlockWait hc hs
    | lockoutState => apply BCTransition.unlockLockout hc hs
  · rw [if_neg (by rw [hc]; decide), if_pos hc, handleBCSetVrCommand]
    cases hs : vc.currentState with
    | openState => apply BCTransition.setVrOpen hc hs
    | waitState => apply BCTransition.setVrWait hc hs
    | lockoutState => apply BCTransition.setVrLockout hc hs
  · rw [hc, if_neg (by decide), if_neg (by decide)]
    apply BCTransition.illegalCommand hc

/-- The machine follows its state table. -/
theorem doFARM_transition (vc : VirtualChannelReception μ) (frame : TcTransferFrame)
    (clcw : Clcw) :
  Farm1Transition vc clcw frame (vc.doFARM frame clcw)
  := by
  rw [doFARM]
  split_ifs with hAD hBD hBC
  · apply Farm1Transition.ad hAD
    apply handleADFrame_transition
  · apply Farm1Transition.bd hBD
  · apply Farm1Transition.bc hBC
    apply handleBCFrame_transition
  · apply Farm1Transition.illegalFlags hAD hBD hBC

theorem ADTransition.handleADFrame_eq (h : ADTransition vc clcw frame r) :
  vc.handleADFrame frame clcw = r
  := by
  cases h with
  | accept hs hd =>
      simp [handleADFrame, Farm1StateOpen.handleADFrame, hs, hd]
  | positiveWindow hs hd hw =>
      simp [handleADFrame, Farm1StateOpen.handleADFrame, hs, hd, hw, Int.ne_of_gt hd]
  | negativeWindow hs hd hw =>
      simp only [handleADFrame, hs]
      rw [Farm1StateOpen.handleADFrame, if_neg (by omega), if_neg (by omega), if_pos ⟨hd, hw⟩]
  | lockout hs hd hw =>
      simp only [handleADFrame, hs]
      rw [Farm1StateOpen.handleADFrame, if_neg hd, if_neg (by omega), if_neg (by omega)]
  | lockoutFromWait hs hw =>
      simp [handleADFrame, Farm1StateWait.handleADFrame, hs, hw]
  | waiting hs hw =>
      simp only [handleADFrame, hs]
      rw [Farm1StateWait.handleADFrame, if_neg (by omega)]
  | lockedOut hs =>
      simp [handleADFrame, Farm1StateLockout.handleADFrame, hs]

theorem BCTransition.handleBCFrame_eq (h : BCTransition vc clcw frame r) :
  vc.handleBCFrame frame clcw = r
  := by
  rw [handleBCFrame_eq_ite]
  cases h with
  | unlockOpen hc hs => simp [hc, handleBCUnlockCommand, hs, Farm1StateOpen.handleBCUnlockCommand]
  | unlockWait hc hs => simp [hc, handleBCUnlockCommand, hs, Farm1StateWait.handleBCUnlockCommand]
  | unlockLockout hc hs =>
      simp [hc, handleBCUnlockCommand, hs, Farm1StateLockout.handleBCUnlockCommand]
  | setVrOpen hc hs => simp [hc, handleBCSetVrCommand, hs, Farm1StateOpen.handleBCSetVrCommand]
  | setVrWait hc hs => simp [hc, handleBCSetVrCommand, hs, Farm1StateWait.handleBCSetVrCommand]
  | setVrLockout hc hs =>
      simp [hc, handleBCSetVrCommand, hs, Farm1StateLockout.handleBCSetVrCommand]
  | illegalCommand hc => simp [hc]

/-- The state table leaves no choice: it has exactly the transitions of the machine. -/
theorem farm1Transition_iff :
  Farm1Transition vc clcw frame r ↔ vc.doFARM frame clcw = r
  := by
  constructor
  · intro h
    cases h with
    | ad hf h =>
        rw [doFARM, if_pos hf]
        apply h.handleADFrame_eq
    | bd hf =>
        rw [doFARM, if_neg (by rw [hf]; decide), if_pos hf]
        rfl
    | bc hf h =>
        rw [doFARM, if_neg (by rw [hf]; decide), if_neg (by rw [hf]; decide), if_pos hf]
        apply h.handleBCFrame_eq
    | illegalFlags hAD hBD hBC =>
        rw [doFARM, if_neg hAD, if_neg hBD, if_neg hBC]
  · rintro rfl
    apply doFARM_transition

theorem doFARM_of_ad (hf : typeValue frame = adFrame) :
  vc.doFARM frame clcw = vc.handleADFrame frame clcw
  := by
  rw [doFARM, if_pos hf]

/-! ### Sequence numbers and windows -/

/-- The signed difference of two sequence numbers, from their difference modulo 256. -/
theorem sequenceDiff_eq (nS vR : UInt8) :
  sequenceDiff nS vR =
    if (nS - vR).toNat < 128 then ((nS - vR).toNat : ℤ) else (nS - vR).toNat - 256
  := by
  have hn := nS.toNat_lt
  have hv := vR.toNat_lt
  rw [sequenceDiff, Int.bmod, UInt8.toNat_sub]
  split_ifs <;> omega

theorem sequenceDiff_eq_zero_iff {nS vR : UInt8} :
  sequenceDiff nS vR = 0 ↔ nS = vR
  := by
  have hn := nS.toNat_lt
  have hv := vR.toNat_lt
  rw [sequenceDiff, Int.bmod, ← UInt8.toNat_inj]
  split_ifs <;> omega

/-- How an AD frame that is `d` ahead of V(R), modulo 256, is classified when it is not the
expected one: by the half of the sliding window of width `w` it lies in. -/
def windowOf (w d : ℕ) : ReturnValue :=
  if 1 ≤ d ∧ d ≤ w / 2 - 1 then
    CCSDSReturnValuesIF.nsPositiveW
  else if 256 - w / 2 ≤ d ∧ d ≤ 255 then
    CCSDSReturnValuesIF.nsNegativeW
  else
    CCSDSReturnValuesIF.nsLockout

/-- The widths of sliding windows: the even numbers from 2 to 254. -/
def LegalWidth (w : UInt8) : Prop :=
  2 ≤ w.toNat ∧ w.toNat ≤ 254 ∧ w.toNat % 2 = 0

/-- Both windows are half of the sliding window, whose width is `w`. -/
def HasWidth (w : UInt8) (vc : VirtualChannelReception μ) : Prop :=
  vc.positiveWindow.toNat = w.toNat / 2 ∧ vc.negativeWindow.toNat = w.toNat / 2

/-- An AD frame is accepted exactly in the open state and with the number V(R). -/
theorem ADTransition.ok_iff (h : ADTransition vc clcw frame r) :
  r.2.2 = .ok ↔ vc.currentState = .openState ∧ frame.getSequenceNumber = vc.vR
  := by
  rw [← sequenceDiff_eq_zero_iff]
  cases h with
  | accept hs hd => simp [hs, hd]
  | positiveWindow _ hd => simp [Int.ne_of_gt hd]
  | negativeWindow _ hd => simp [Int.ne_of_lt hd]
  | lockout _ hd => simp [hd]
  | lockoutFromWait hs => simp [hs]
  | waiting hs => simp [hs]
  | lockedOut hs => simp [hs]

/-- An AD frame that is not accepted in the open state is classified by the window it lies
in, and changes neither V(R) nor the FARM-B counter. -/
theorem ADTransition.window {w : UInt8} (h : ADTransition vc clcw frame r) (hw : LegalWidth w)
    (hvc : HasWidth w vc) (hs : vc.currentState = .openState)
    (hn : frame.getSequenceNumber ≠ vc.vR) :
  r.2.2 = windowOf w.toNat (frame.getSequenceNumber - vc.vR).toNat ∧
  r.1.vR = vc.vR ∧ r.1.farmBCounter = vc.farmBCounter
  := by
  have hd := mt sequenceDiff_eq_zero_iff.mp hn
  have h256 := (frame.getSequenceNumber - vc.vR).toNat_lt
  obtain ⟨hp, hm⟩ := hvc
  obtain ⟨h2, h254, -⟩ := hw
  cases h with
  | accept _ hd' =>
      apply absurd hd' hd
  | positiveWindow _ hd hw =>
      rw [hp, sequenceDiff_eq] at hw
      rw [sequenceDiff_eq] at hd
      refine ⟨?_, rfl, rfl⟩
      rw [windowOf, if_pos]
      split_ifs at hd hw <;> omega
  | negativeWindow _ hd hw =>
      rw [hm, sequenceDiff_eq] at hw
      rw [sequenceDiff_eq] at hd
      refine ⟨?_, rfl, rfl⟩
      rw [windowOf, if_neg, if_pos]
      · split_ifs at hd hw <;> omega
      · split_ifs at hd hw <;> omega
  | lockout _ hd hw =>
      rw [hp, hm, sequenceDiff_eq] at hw
      rw [sequenceDiff_eq] at hd
      refine ⟨?_, rfl, rfl⟩
      rw [windowOf, if_neg, if_neg]
      · split_ifs at hd hw <;> omega
      · split_ifs at hd hw <;> omega
  | lockoutFromWait hs' => simp [hs] at hs'
  | waiting hs' => simp [hs] at hs'
  | lockedOut hs' => simp [hs] at hs'

/-- Unless the frame is an accepted Set-V(R) command, V(R) changes only with an accepted AD
frame, and then to the next number. -/
theorem Farm1Transition.vR_eq (h : Farm1Transition vc clcw frame r)
    (hr : r.2.2 ≠ CCSDSReturnValuesIF.bcIsSetVrCommand) :
  r.1.vR = if typeValue frame = adFrame ∧ r.2.2 = .ok then vc.vR + 1 else vc.vR
  := by
  cases h with
  | ad hf h => cases h <;> simp [hf]
  | bd hf => simp [hf, show bdFrame ≠ adFrame by decide]
  | bc hf h => cases h <;> simp_all
  | illegalFlags => simp

theorem Farm1Transition.hasWidth {w : UInt8} (h : Farm1Transition vc clcw frame r)
    (hvc : HasWidth w vc) :
  HasWidth w r.1
  := by
  cases h with
  | ad _ h => cases h <;> apply hvc
  | bd => apply hvc
  | bc _ h => cases h <;> apply hvc
  | illegalFlags => apply hvc

/-! ### Runs of a virtual channel -/

/-- A virtual channel, the control word it reports to, and the environment of its map
channels. -/
structure ChannelState (μ σ : Type*) where
  vc : VirtualChannelReception μ
  clcw : Clcw
  env : σ

/-- What can happen to a virtual channel. -/
inductive ChannelInput (μ : Type*) where
  | addMapChannel (mapId : UInt8) (object : μ)
  | frame (frame : TcTransferFrame)
  | setToWaitState

/-- What comes of it: for a frame, the values that `doFARM` and
`frameAcceptanceAndReportingMechanism` return. -/
inductive ChannelOutput where
  | added (result : ReturnValue)
  | received (farm result : ReturnValue)
  | waiting
  deriving DecidableEq

/-- One step of a virtual channel. -/
def step (I : MapPacketExtractionIF μ σ) :
    Step (ChannelState μ σ) (ChannelInput μ) ChannelOutput
  | s, .addMapChannel mapId object =>
      match s.vc.addMapChannel mapId object with
      | (vc, result) => some ({ s with vc := vc }, .added result)
  | s, .frame frame =>
      match s.vc.frameAcceptanceAndReportingMechanism I frame s.clcw s.env with
      | (vc, clcw, result, env) =>
          some (⟨vc, clcw, env⟩, .received (s.vc.farm frame).2 result)
  | s, .setToWaitState => some ({ s with vc := s.vc.setToWaitState }, .waiting)

/-- The numbers of the AD frames that are accepted along a run. -/
def acceptedNumbers : List (ChannelInput μ) → List ChannelOutput → List UInt8
  | .frame frame :: is, .received farm _ :: os =>
      if typeValue frame = adFrame ∧ farm = .ok then
        frame.getSequenceNumber :: acceptedNumbers is os
      else
        acceptedNumbers is os
  | _ :: is, _ :: os => acceptedNumbers is os
  | _, _ => []

/-- The output reports an accepted Set-V(R) command. -/
def ChannelOutput.IsSetVr : ChannelOutput → Prop
  | .received farm _ => farm = CCSDSReturnValuesIF.bcIsSetVrCommand
  | _ => False

theorem farm_snd (vc : VirtualChannelReception μ) (frame : TcTransferFrame) :
  (vc.farm frame).2 = (vc.doFARM frame vc.internalClcw).2.2
  := by
  rfl

theorem farm_vR (vc : VirtualChannelReception μ) (frame : TcTransferFrame) :
  (vc.farm frame).1.vR = (vc.doFARM frame vc.internalClcw).1.vR
  := by
  rfl

/-- Receiving a frame leaves the virtual channel that the machine leaves. -/
theorem frameAcceptanceAndReportingMechanism_fst
    (I : MapPacketExtractionIF μ σ) (vc : VirtualChannelReception μ) (frame : TcTransferFrame)
    (clcw : Clcw) (env : σ) :
  (vc.frameAcceptanceAndReportingMechanism I frame clcw env).1 = (vc.farm frame).1
  := by
  simp only [frameAcceptanceAndReportingMechanism]
  split_ifs <;> rfl

/-- Adding a map channel changes nothing but the map channels. -/
theorem addMapChannel_fst (vc : VirtualChannelReception μ) (mapId : UInt8) (object : μ) :
  ∃ mapChannels, (vc.addMapChannel mapId object).1 = { vc with mapChannels := mapChannels }
  := by
  rw [addMapChannel]
  split
  · use vc.mapChannels
  · apply Exists.intro
    rfl

variable {I : MapPacketExtractionIF μ σ} {s s' : ChannelState μ σ} {i : ChannelInput μ}
  {o : ChannelOutput}

/-- What a step does to the virtual channel. -/
theorem step_cases (h : step I s i = some (s', o)) :
  (∃ mapId object result mapChannels, i = .addMapChannel mapId object ∧ o = .added result ∧
    s'.vc = { s.vc with mapChannels := mapChannels }) ∨
  (∃ frame result, i = .frame frame ∧ o = .received (s.vc.farm frame).2 result ∧
    s'.vc = (s.vc.farm frame).1) ∨
  (i = .setToWaitState ∧ o = .waiting ∧ s'.vc = s.vc.setToWaitState)
  := by
  cases i with
  | addMapChannel mapId object =>
      cases h
      obtain ⟨mapChannels, hm⟩ := addMapChannel_fst s.vc mapId object
      exact Or.inl ⟨mapId, object, _, mapChannels, rfl, rfl, hm⟩
  | frame frame =>
      cases h
      refine Or.inr (Or.inl ⟨frame, _, rfl, rfl, ?_⟩)
      apply frameAcceptanceAndReportingMechanism_fst
  | setToWaitState =>
      cases h
      exact Or.inr (Or.inr ⟨rfl, rfl, rfl⟩)

/-- Every step is defined. -/
theorem step_total (I : MapPacketExtractionIF μ σ) (s : ChannelState μ σ)
    (i : ChannelInput μ) :
  ∃ s' o, step I s i = some (s', o)
  := by
  cases i with
  | addMapChannel => exact ⟨_, _, rfl⟩
  | frame => exact ⟨_, _, rfl⟩
  | setToWaitState => exact ⟨_, _, rfl⟩

/-! ### In-order acceptance -/

theorem step_hasWidth {w : UInt8} (hs : HasWidth w s.vc) (h : step I s i = some (s', o)) :
  HasWidth w s'.vc
  := by
  obtain ⟨_, _, _, _, _, _, h⟩ | ⟨frame, _, _, _, h⟩ | ⟨_, _, h⟩ := step_cases h
  · rw [h]
    apply hs
  · rw [h]
    apply (doFARM_transition s.vc frame s.vc.internalClcw).hasWidth hs
  · rw [h]
    apply hs

/-- A step that is not an accepted Set-V(R) command either accepts the AD frame with the
number V(R) and moves V(R) on, or accepts no AD frame and leaves V(R) alone. -/
theorem step_acceptedNumbers (h : step I s i = some (s', o)) (ho : ¬ o.IsSetVr) :
  (∀ is os, acceptedNumbers (i :: is) (o :: os) = s.vc.vR :: acceptedNumbers is os) ∧
    s'.vc.vR = s.vc.vR + 1 ∨
  (∀ is os, acceptedNumbers (i :: is) (o :: os) = acceptedNumbers is os) ∧
    s'.vc.vR = s.vc.vR
  := by
  obtain ⟨_, _, _, _, rfl, rfl, hvc⟩ | ⟨frame, _, rfl, rfl, hvc⟩ | ⟨rfl, rfl, hvc⟩ :=
    step_cases h
  · right
    simp [acceptedNumbers, hvc]
  · have hvR := (doFARM_transition s.vc frame s.vc.internalClcw).vR_eq ho
    rw [← farm_vR, ← farm_snd, ← hvc] at hvR
    by_cases hf : typeValue frame = adFrame ∧ (s.vc.farm frame).2 = .ok
    · left
      have hn := ((handleADFrame_transition s.vc frame s.vc.internalClcw).ok_iff).mp
        (by rw [← doFARM_of_ad hf.1, ← farm_snd, hf.2])
      rw [if_pos hf] at hvR
      constructor
      · intro is os
        rw [acceptedNumbers, if_pos hf, hn.2]
      · apply hvR
    · right
      rw [if_neg hf] at hvR
      constructor
      · intro is os
        rw [acceptedNumbers, if_neg hf]
      · apply hvR
  · right
    simp [acceptedNumbers, hvc, setToWaitState]

/-- Along a run without accepted Set-V(R) commands, the numbers of the accepted AD frames
count up from V(R). -/
theorem run_acceptedNumbers
    {is : List (ChannelInput μ)} {os : List ChannelOutput}
    (h : (step I).run s is = some (s', os)) (hos : ∀ o ∈ os, ¬ o.IsSetVr)
    {k : ℕ} {n : UInt8} (hn : (acceptedNumbers is os)[k]? = some n) :
  n = s.vc.vR + UInt8.ofNat k
  := by
  induction is generalizing s os k with
  | nil =>
      simp [acceptedNumbers] at hn
  | cons i is ih =>
      obtain ⟨s₁, o, os, h₁, h₂, rfl⟩ := Step.run_cons_inv h
      have ho := hos o List.mem_cons_self
      have hos' := fun o' ho' => hos o' (List.mem_cons_of_mem o ho')
      obtain ⟨ha, hv⟩ | ⟨ha, hv⟩ := step_acceptedNumbers h₁ ho
      · rw [ha] at hn
        cases k with
        | zero =>
            cases hn
            simp
        | succ k =>
            rw [ih h₂ hos' hn, hv, UInt8.ofNat_add, UInt8.add_assoc, UInt8.add_comm 1]
            rfl
      · rw [ha] at hn
        rw [ih h₂ hos' hn, hv]

theorem hasWidth_new (channelId w : UInt8) :
  HasWidth w (new channelId w : VirtualChannelReception μ)
  := by
  simp [HasWidth, new]

/-- In every state that a new virtual channel reaches, an AD frame is accepted exactly when
the machine is open and the frame has the number V(R), and an AD frame that is not accepted
in the open state is classified by the window it lies in and changes neither V(R) nor the
FARM-B counter. From there, up to the next accepted Set-V(R) command, the accepted AD frames
count up from V(R). -/
theorem accepts_in_order
    (I : MapPacketExtractionIF μ σ) (channelId : UInt8) {w : UInt8} (hw : LegalWidth w)
    (clcw : Clcw) (env : σ) (is js : List (ChannelInput μ)) :
  ∃ s os s' os',
    (step I).run ⟨new channelId w, clcw, env⟩ is = some (s, os) ∧
    (step I).run s js = some (s', os') ∧
    (∀ frame r, typeValue frame = adFrame → s.vc.doFARM frame s.vc.internalClcw = r →
      (r.2.2 = .ok ↔
        s.vc.currentState = .openState ∧ frame.getSequenceNumber = s.vc.vR) ∧
      (s.vc.currentState = .openState → r.2.2 ≠ .ok →
        r.2.2 = windowOf w.toNat (frame.getSequenceNumber - s.vc.vR).toNat ∧
        r.1.vR = s.vc.vR ∧ r.1.farmBCounter = s.vc.farmBCounter)) ∧
    ((∀ o ∈ os', ¬ o.IsSetVr) →
      ∀ k n, (acceptedNumbers js os')[k]? = some n → n = s.vc.vR + UInt8.ofNat k)
  := by
  obtain ⟨s, os, hs⟩ := Step.run_total (step_total I) ⟨new channelId w, clcw, env⟩ is
  obtain ⟨s', os', hs'⟩ := Step.run_total (step_total I) s js
  use s, os, s', os', hs, hs'
  constructor
  · rintro frame r hf rfl
    have ht := handleADFrame_transition s.vc frame s.vc.internalClcw
    rw [doFARM_of_ad hf]
    use ht.ok_iff
    intro hopen hok
    apply ht.window hw _ hopen
    · intro hn
      apply hok (ht.ok_iff.mpr ⟨hopen, hn⟩)
    · apply Step.run_preserves (I := fun s => HasWidth w s.vc) _ _ hs
      · intro s i s' o hw h
        apply step_hasWidth hw h
      · apply hasWidth_new
  · intro hos k n hn
    apply run_acceptedNumbers hs' hos hn

/-- Map channels that take every frame and do nothing with it. -/
def idleChannels : MapPacketExtractionIF Unit Unit where
  extractPackets _ _ env := (.ok, env)
  initializeChannel _ env := (.ok, env)

/-- An AD frame with the number `nS`, and zeros everywhere else. -/
def numberedFrame (nS : UInt8) : TcTransferFrame where
  bytes i := if i = 4 then nS else 0

/-- After it has accepted the number 0, a new virtual channel accepts the number 1. -/
theorem accepts_in_order_one :
  LegalWidth 10 ∧
  ∃ s os,
    (step idleChannels).run ⟨new 0 10, Clcw.new, ()⟩ [.frame (numberedFrame 0)] =
      some (s, os) ∧
    (s.vc.doFARM (numberedFrame 1) s.vc.internalClcw).2.2 = .ok
  := by
  have hw : LegalWidth 10 := by
    simp [LegalWidth]
  use hw
  obtain ⟨s, os, _, _, hs, _, h, _⟩ :=
    accepts_in_order idleChannels 0 hw Clcw.new () [.frame (numberedFrame 0)] []
  use s, os, hs
  apply (h (numberedFrame 1) _ (by decide) rfl).1.mpr
  cases hs
  decide

/-! ### The state and its report -/

/-- The control word reports the state: its lockout flag is set exactly in the lockout state,
its wait flag is set in the wait state and clear in the open state. -/
structure ReportsState (state : Farm1State) (clcw : Clcw) : Prop where
  lockout_iff : clcw.lockoutFlag = true ↔ state = .lockoutState
  wait_set : state = .waitState → clcw.waitFlag = true
  wait_clear : state = .openState → clcw.waitFlag = false

theorem ADTransition.reportsState (h : ADTransition vc clcw frame r)
    (hs : ReportsState vc.currentState clcw) :
  ReportsState r.1.currentState r.2.1
  := by
  obtain ⟨hl, hw, ho⟩ := hs
  cases h <;> constructor <;> simp_all

theorem BCTransition.reportsState (h : BCTransition vc clcw frame r)
    (hs : ReportsState vc.currentState clcw) :
  ReportsState r.1.currentState r.2.1
  := by
  obtain ⟨hl, hw, ho⟩ := hs
  cases h <;> constructor <;> simp_all

/-- Every transition of the machine keeps the report right. -/
theorem Farm1Transition.reportsState (h : Farm1Transition vc clcw frame r)
    (hs : ReportsState vc.currentState clcw) :
  ReportsState r.1.currentState r.2.1
  := by
  cases h with
  | ad _ h => apply h.reportsState hs
  | bd => apply hs
  | bc _ h => apply h.reportsState hs
  | illegalFlags => apply hs

/-- The machine leaves the lockout state only by an accepted Unlock command. -/
theorem Farm1Transition.leaves_lockout (h : Farm1Transition vc clcw frame r)
    (hs : vc.currentState = .lockoutState) (hr : r.1.currentState ≠ .lockoutState) :
  typeValue frame = bcFrame ∧ r.2.2 = CCSDSReturnValuesIF.bcIsUnlockCommand
  := by
  cases h with
  | ad _ h => cases h <;> simp_all
  | bd => apply absurd hs hr
  | bc hf h => cases h <;> simp_all
  | illegalFlags => apply absurd hs hr

/-- The control word of the virtual channel reports its state. -/
def Reporting (s : ChannelState μ σ) : Prop :=
  ReportsState s.vc.currentState s.vc.internalClcw

/-- After the step the control word reports the state, and if the step leaves the lockout
state, then it is an accepted Unlock command. -/
def StaysReporting (I : MapPacketExtractionIF μ σ) (s : ChannelState μ σ)
    (i : ChannelInput μ) : Prop :=
  ∀ s' o, step I s i = some (s', o) →
    Reporting s' ∧
    (s.vc.currentState = .lockoutState → s'.vc.currentState ≠ .lockoutState →
      ∃ frame result, i = .frame frame ∧ typeValue frame = bcFrame ∧
        o = .received CCSDSReturnValuesIF.bcIsUnlockCommand result)

/-- The channel is not set to wait while it is locked out. -/
def NoWaitInLockout (s : ChannelState μ σ) (i : ChannelInput μ) : Prop :=
  i = .setToWaitState → s.vc.currentState ≠ .lockoutState

theorem farm_reportsState (frame : TcTransferFrame)
    (h : ReportsState vc.currentState vc.internalClcw) :
  ReportsState (vc.farm frame).1.currentState (vc.farm frame).1.internalClcw
  := by
  obtain ⟨hl, hw, ho⟩ := (doFARM_transition vc frame vc.internalClcw).reportsState h
  constructor
  · simpa [farm] using hl
  · simpa [farm] using hw
  · simpa [farm] using ho

theorem setToWaitState_reportsState (h : ReportsState vc.currentState vc.internalClcw)
    (hs : vc.currentState ≠ .lockoutState) :
  ReportsState vc.setToWaitState.currentState vc.setToWaitState.internalClcw
  := by
  have hl := mt h.lockout_iff.mp hs
  constructor <;> simp [setToWaitState, hl]

/-- From a state whose report is right, a step keeps it right exactly when it does not set
the channel to wait in the lockout state. -/
theorem staysReporting_iff (hs : Reporting s) :
  StaysReporting I s i ↔ NoWaitInLockout s i
  := by
  constructor
  · rintro h rfl hlock
    obtain ⟨_, h⟩ := h _ _ rfl
    obtain ⟨_, _, hi, _⟩ := h hlock (by simp [setToWaitState])
    cases hi
  · intro hi s' o h
    obtain ⟨_, _, _, _, _, _, hvc⟩ | ⟨frame, result, rfl, rfl, hvc⟩ | ⟨rfl, _, hvc⟩ :=
      step_cases h
    · rw [Reporting, hvc]
      use hs
      intro hlock hleave
      apply absurd hlock hleave
    · rw [Reporting, hvc]
      use farm_reportsState frame hs
      intro hlock hleave
      obtain ⟨hf, hr⟩ :=
        (doFARM_transition s.vc frame s.vc.internalClcw).leaves_lockout hlock hleave
      rw [farm_snd, hr]
      use frame, result, rfl, hf
    · rw [Reporting, hvc]
      use setToWaitState_reportsState hs (hi rfl)
      intro hlock
      apply absurd hlock (hi rfl)

theorem reporting_new (channelId w : UInt8) (clcw : Clcw) (env : σ) :
  Reporting (⟨new channelId w, clcw, env⟩ : ChannelState μ σ)
  := by
  constructor <;> simp [new, Clcw.new, Clcw.setVirtualChannel, Clcw.lockoutFlag, Clcw.waitFlag]

/-- Along a run of a new virtual channel the control word reports the state after each step,
and the lockout state is only left by an accepted Unlock command, exactly when the channel is
never set to wait while it is locked out. -/
theorem reportsState_iff
    (I : MapPacketExtractionIF μ σ) (channelId w : UInt8) (clcw : Clcw) (env : σ)
    (is : List (ChannelInput μ)) :
  (step I).Along (StaysReporting I) ⟨new channelId w, clcw, env⟩ is ↔
  (step I).Along NoWaitInLockout ⟨new channelId w, clcw, env⟩ is
  := by
  apply Step.along_congr (I := Reporting)
  · intro s i hs
    apply staysReporting_iff hs
  · intro s i s' o hs hi h
    apply ((staysReporting_iff hs).mpr hi s' o h).1
  · apply reporting_new

/-- A new virtual channel that is locked out by a frame and then set to wait leaves the
lockout state without an Unlock command. -/
theorem not_reportsState_wait_in_lockout :
  ¬ (step idleChannels).Along (StaysReporting idleChannels)
    ⟨new 0 10, Clcw.new, ()⟩ [.frame (numberedFrame 100), .setToWaitState]
  := by
  intro h
  obtain ⟨_, h⟩ := (h.2 _ _ rfl).1 _ _ rfl
  obtain ⟨_, _, hi, _⟩ := h (by decide) (by decide)
  cases hi

end VirtualChannelReception
