import Fsfw.DataLinkLayer.MapPacketExtraction

/-!
# Reassembly of segmented packets

The frames received so far determine the group of frames whose packet is being collected:
a first segment starts a group, a continuing segment joins it, and a segment that is too
large or has no group to join leaves no group (`pending`).

A map channel keeps in its buffer the data of the pending group, and forwards it together
with the data of a last segment, as long as no segment directly follows a first or continuing
segment that was rejected (`forwards_reassembled`).  After a rejected segment a map channel
clears its buffer but remembers the flag of the segment, so it takes the next one for a
segment of the same packet.
-/

open Memory

namespace MapPacketExtraction

/-! ### Groups of segments -/

/-- The data of a group of segments. -/
def dataOfGroup (group : List TcTransferFrame) : List UInt8 :=
  group.flatMap dataOf

/-- The group that is being collected after a frame is received. -/
def collect (group : Option (List TcTransferFrame)) (frame : TcTransferFrame) :
    Option (List TcTransferFrame) :=
  if frame.getSequenceFlags = firstPortion then
    if (dataOf frame).length ≤ maxPacketSize then some [frame] else none
  else if frame.getSequenceFlags = continuingPortion then
    match group with
    | none => none
    | some group =>
        if (dataOfGroup (group ++ [frame])).length ≤ maxPacketSize then
          some (group ++ [frame])
        else
          none
  else
    none

/-- The group that is being collected after the frames are received. -/
def pending (frames : List TcTransferFrame) : Option (List TcTransferFrame) :=
  frames.foldl collect none

/-- The frame is a segment that goes on with a packet. -/
def GoesOn (frame : TcTransferFrame) : Prop :=
  frame.getSequenceFlags = continuingPortion ∨ frame.getSequenceFlags = lastPortion

/-- The frame is a segment that another one follows. -/
def IsFollowed (frame : TcTransferFrame) : Prop :=
  frame.getSequenceFlags = firstPortion ∨ frame.getSequenceFlags = continuingPortion

/-- No segment that goes on with a packet directly follows a first or continuing segment
that was rejected. -/
def NoneAfterRejected (frames : List TcTransferFrame) : Prop :=
  ∀ earlier previous frame, earlier ++ [previous, frame] <+: frames →
    IsFollowed previous → GoesOn frame → pending (earlier ++ [previous]) ≠ none

/-- A first segment and any number of continuing segments. -/
def IsStarted (group : List TcTransferFrame) : Prop :=
  ∃ first continuing, group = first :: continuing ∧
    first.getSequenceFlags = firstPortion ∧
    ∀ frame ∈ continuing, frame.getSequenceFlags = continuingPortion

theorem pending_append (frames : List TcTransferFrame) (frame : TcTransferFrame) :
  pending (frames ++ [frame]) = collect (pending frames) frame
  := by
  simp [pending]

theorem collect_first {frame : TcTransferFrame} (group : Option (List TcTransferFrame))
    (h : frame.getSequenceFlags = firstPortion) :
  collect group frame = if (dataOf frame).length ≤ maxPacketSize then some [frame] else none
  := by
  simp [collect, h]

theorem collect_continuing {frame : TcTransferFrame} (group : List TcTransferFrame)
    (h : frame.getSequenceFlags = continuingPortion) :
  collect (some group) frame =
    if (dataOfGroup (group ++ [frame])).length ≤ maxPacketSize then some (group ++ [frame])
    else none
  := by
  simp [collect, h, show continuingPortion ≠ firstPortion by decide]

theorem collect_none {frame : TcTransferFrame} (h : frame.getSequenceFlags ≠ firstPortion) :
  collect none frame = none
  := by
  simp [collect, h]

theorem collect_other {frame : TcTransferFrame} (group : Option (List TcTransferFrame))
    (hfirst : frame.getSequenceFlags ≠ firstPortion)
    (hcont : frame.getSequenceFlags ≠ continuingPortion) :
  collect group frame = none
  := by
  simp [collect, hfirst, hcont]

theorem dataOfGroup_append (group : List TcTransferFrame) (frame : TcTransferFrame) :
  dataOfGroup (group ++ [frame]) = dataOfGroup group ++ dataOf frame
  := by
  simp [dataOfGroup]

theorem NoneAfterRejected.of_append {frames : List TcTransferFrame} {frame : TcTransferFrame}
    (h : NoneAfterRejected (frames ++ [frame])) :
  NoneAfterRejected frames
  := by
  intro earlier previous next hpre
  apply h earlier previous next
  apply hpre.trans
  apply List.prefix_append

/-- The group that is pending after a frame, if there is one, starts with the frame, or is
the one that was pending before with the frame added to it. -/
theorem collect_eq_some {group : Option (List TcTransferFrame)} {frame : TcTransferFrame}
    {g : List TcTransferFrame} (h : collect group frame = some g) :
  (dataOfGroup g).length ≤ maxPacketSize ∧
  (frame.getSequenceFlags = firstPortion ∧ g = [frame] ∨
    frame.getSequenceFlags = continuingPortion ∧ ∃ g', group = some g' ∧ g = g' ++ [frame])
  := by
  unfold collect at h
  split_ifs at h with hfirst hlen hcont
  · cases h
    simp [dataOfGroup, hlen, hfirst]
  · cases group with
    | none =>
        cases h
    | some g' =>
        simp only at h
        split_ifs at h with hlen
        cases h
        use hlen
        right
        use hcont, g'

theorem IsStarted.append {group : List TcTransferFrame} {frame : TcTransferFrame}
    (h : IsStarted group) (hf : frame.getSequenceFlags = continuingPortion) :
  IsStarted (group ++ [frame])
  := by
  obtain ⟨first, continuing, rfl, hfirst, hcont⟩ := h
  use first, continuing ++ [frame], rfl, hfirst
  intro f hmem
  rw [List.mem_append, List.mem_singleton] at hmem
  rcases hmem with hmem | rfl
  · apply hcont f hmem
  · apply hf

/-! ### What a map channel does with a segment -/

/-- The map channel has the data of the group in its buffer. -/
structure Holds (m : MapPacketExtraction) (group : List TcTransferFrame) : Prop where
  length_le : (dataOfGroup group).length ≤ maxPacketSize
  packetLength_eq : m.packetLength = (dataOfGroup group).length
  bufferPosition_eq : m.bufferPosition = (dataOfGroup group).length
  slice_eq : slice m.packetBuffer 0 (dataOfGroup group).length = dataOfGroup group

theorem length_dataOf (frame : TcTransferFrame) :
  (dataOf frame).length = frame.getDataLength.toNat
  := by
  simp [dataOf]

section

variable {σ : Type*} {m : MapPacketExtraction} {frame : TcTransferFrame}
  {group : List TcTransferFrame}

/-- A first segment that is not too large starts a packet. -/
theorem firstSegment_of_le (m : MapPacketExtraction) (env : σ)
    (h : (dataOf frame).length ≤ maxPacketSize) :
  ∃ m', m.firstSegment frame env = some (m', ⟨.ok, [], env⟩) ∧ Holds m' [frame]
  := by
  have hcopy : 0 + (dataOf frame).length ≤ maxPacketSize := by omega
  have hlen : frame.getDataLength.toNat ≤ maxPacketSize := length_dataOf frame ▸ h
  simp only [firstSegment, if_pos hlen, copyIn, if_pos hcopy]
  apply Exists.intro
  use rfl
  have hdata : dataOfGroup [frame] = dataOf frame := by
    simp [dataOfGroup]
  constructor
  · rw [hdata]
    apply h
  · rw [hdata, length_dataOf]
  · rw [hdata, length_dataOf]
  · rw [hdata]
    exact slice_overwrite_self m.packetBuffer 0 (dataOf frame)

/-- A first segment that is too large is rejected. -/
theorem firstSegment_of_gt (m : MapPacketExtraction) (env : σ)
    (h : ¬ (dataOf frame).length ≤ maxPacketSize) :
  ∃ m', m.firstSegment frame env =
    some (m', ⟨CCSDSReturnValuesIF.contentTooLarge, [], env⟩)
  := by
  have hlen : ¬ frame.getDataLength.toNat ≤ maxPacketSize := length_dataOf frame ▸ h
  simp only [firstSegment, if_neg hlen]
  apply Exists.intro
  rfl

/-- A segment that fits behind the collected ones joins them, and the last one makes the
packet complete. -/
theorem nextSegment_of_le (D : PacketDestination σ) (env : σ) (hm : Holds m group)
    (hflag : m.lastSegmentationFlag = firstPortion ∨
      m.lastSegmentationFlag = continuingPortion)
    (hlen : (dataOfGroup (group ++ [frame])).length ≤ maxPacketSize) :
  (frame.getSequenceFlags = lastPortion →
    ∃ m' env', m.nextSegment D frame env =
      some (m', ⟨.ok, [dataOfGroup (group ++ [frame])], env'⟩)) ∧
  (frame.getSequenceFlags ≠ lastPortion →
    ∃ m', m.nextSegment D frame env = some (m', ⟨.ok, [], env⟩) ∧
      Holds m' (group ++ [frame]))
  := by
  have hdata := dataOfGroup_append group frame
  have hadd : (dataOfGroup (group ++ [frame])).length =
      m.packetLength + frame.getDataLength.toNat := by
    rw [hdata, List.length_append, hm.packetLength_eq, length_dataOf]
  have hmod : (m.packetLength + frame.getDataLength.toNat) % 2 ^ 32 =
      (dataOfGroup (group ++ [frame])).length := by
    rw [hadd]
    apply Nat.mod_eq_of_lt
    simp only [maxPacketSize] at hlen
    omega
  have hcopy : m.bufferPosition + (dataOf frame).length ≤ maxPacketSize := by
    rw [hm.bufferPosition_eq, ← List.length_append, ← hdata]
    apply hlen
  have hslice : slice (overwrite m.packetBuffer m.bufferPosition (dataOf frame)) 0
      (dataOfGroup (group ++ [frame])).length = dataOfGroup (group ++ [frame]) := by
    rw [hdata, List.length_append, slice_add, Nat.zero_add, hm.bufferPosition_eq,
      slice_overwrite_self, slice_overwrite_of_disjoint (by omega), hm.slice_eq]
  simp only [nextSegment, if_pos hflag, hmod, if_pos hlen, copyIn, if_pos hcopy, hslice]
  constructor
  · intro hlast
    rw [if_pos hlast]
    exact ⟨_, _, rfl⟩
  · intro hlast
    rw [if_neg hlast]
    exact ⟨_, rfl, hlen, rfl, rfl, hslice⟩

/-- A segment that does not fit behind the collected ones is rejected. -/
theorem nextSegment_of_gt (D : PacketDestination σ) (env : σ) (hm : Holds m group)
    (hflag : m.lastSegmentationFlag = firstPortion ∨
      m.lastSegmentationFlag = continuingPortion)
    (hlen : ¬ (dataOfGroup (group ++ [frame])).length ≤ maxPacketSize) :
  ∃ m', m.nextSegment D frame env =
    some (m', ⟨CCSDSReturnValuesIF.contentTooLarge, [], env⟩)
  := by
  have hgt : ¬ (m.packetLength + frame.getDataLength.toNat) % 2 ^ 32 ≤ maxPacketSize := by
    have h₁ := hm.length_le
    have h₂ := frame.getDataLength.toNat_lt
    rw [dataOfGroup_append, List.length_append, length_dataOf] at hlen
    rw [hm.packetLength_eq, Nat.mod_eq_of_lt]
    · apply hlen
    · simp only [maxPacketSize] at h₁
      omega
  simp only [nextSegment, if_pos hflag, if_neg hgt]
  apply Exists.intro
  rfl

/-- A segment that goes on with no packet is rejected. -/
theorem nextSegment_of_orphan (D : PacketDestination σ) (env : σ)
    (hflag : ¬ (m.lastSegmentationFlag = firstPortion ∨
      m.lastSegmentationFlag = continuingPortion)) :
  ∃ m', m.nextSegment D frame env =
    some (m', ⟨CCSDSReturnValuesIF.illegalSegmentationFlag, [], env⟩)
  := by
  simp only [nextSegment, if_neg hflag]
  apply Exists.intro
  rfl

/-! ### A map channel collects the pending group -/

/-- The map channel holds the pending group, if there is one, and its last frame was then a
first or continuing segment. -/
def HoldsPending (m : MapPacketExtraction) (group : Option (List TcTransferFrame)) : Prop :=
  ∀ g, group = some g → Holds m g ∧
    (m.lastSegmentationFlag = firstPortion ∨ m.lastSegmentationFlag = continuingPortion)

/-- What comes of a frame agrees with the group that was pending before: if a group is
pending after the frame, then it is held and the frame is accepted, and what is forwarded on
a segment is the data of the group that the segment completes. -/
structure Agrees (group : Option (List TcTransferFrame)) (frame : TcTransferFrame)
    (m : MapPacketExtraction) (status : ReturnValue) (forwarded : List (List UInt8)) :
    Prop where
  holds : ∀ g, collect group frame = some g → Holds m g ∧ status = .ok
  forwards : frame.getSequenceFlags ≠ noSegmentation → ∀ packet ∈ forwarded,
    frame.getSequenceFlags = lastPortion ∧ status = .ok ∧
    ∃ g, group = some g ∧ packet = dataOfGroup (g ++ [frame])

/-- A frame that leaves no group pending and forwards nothing agrees with any group. -/
theorem Agrees.of_none {pending : Option (List TcTransferFrame)} {status : ReturnValue}
    (h : collect pending frame = none) :
  Agrees pending frame m status []
  := by
  constructor
  · intro g hg
    rw [h] at hg
    cases hg
  · intro _ packet hmem
    cases hmem

theorem firstSegment_agrees (pending : Option (List TcTransferFrame)) (env : σ)
    (hfirst : frame.getSequenceFlags = firstPortion) :
  ∃ m' e, m.firstSegment frame env = some (m', e) ∧
    Agrees pending frame m' e.status e.forwarded
  := by
  by_cases hlen : (dataOf frame).length ≤ maxPacketSize
  · obtain ⟨m', h, hm'⟩ := firstSegment_of_le m env hlen
    refine ⟨m', _, h, ?_, ?_⟩
    · intro g hg
      rw [collect_first pending hfirst, if_pos hlen] at hg
      cases hg
      exact ⟨hm', rfl⟩
    · intro _ packet hmem
      cases hmem
  · obtain ⟨m', h⟩ := firstSegment_of_gt m env hlen
    refine ⟨m', _, h, ?_⟩
    apply Agrees.of_none
    rw [collect_first pending hfirst, if_neg hlen]

theorem nextSegment_agrees (D : PacketDestination σ) {pending : Option (List TcTransferFrame)}
    (env : σ) (hm : HoldsPending m pending) (hgoes : GoesOn frame)
    (hnone : pending = none → ¬ (m.lastSegmentationFlag = firstPortion ∨
      m.lastSegmentationFlag = continuingPortion)) :
  ∃ m' e, m.nextSegment D frame env = some (m', e) ∧
    Agrees pending frame m' e.status e.forwarded
  := by
  have hfirst : frame.getSequenceFlags ≠ firstPortion := by
    rcases hgoes with h | h <;> rw [h] <;> decide
  cases pending with
  | none =>
      obtain ⟨m', h⟩ := nextSegment_of_orphan D env (hnone rfl)
      refine ⟨m', _, h, ?_⟩
      apply Agrees.of_none (collect_none hfirst)
  | some group =>
      obtain ⟨hheld, hflag⟩ := hm group rfl
      by_cases hlen : (dataOfGroup (group ++ [frame])).length ≤ maxPacketSize
      · obtain ⟨hlast, hcont⟩ := nextSegment_of_le D env hheld hflag hlen
        rcases hgoes with hf | hf
        · obtain ⟨m', h, hm'⟩ := hcont (by rw [hf]; decide)
          refine ⟨m', _, h, ?_, ?_⟩
          · intro g hg
            rw [collect_continuing group hf, if_pos hlen] at hg
            cases hg
            exact ⟨hm', rfl⟩
          · intro _ packet hmem
            cases hmem
        · obtain ⟨m', env', h⟩ := hlast hf
          refine ⟨m', _, h, ?_, ?_⟩
          · intro g hg
            rw [collect_other _ hfirst (by rw [hf]; decide)] at hg
            cases hg
          · intro _ packet hmem
            rw [List.mem_singleton] at hmem
            use hf, rfl, group, rfl
      · obtain ⟨m', h⟩ := nextSegment_of_gt D env hheld hflag hlen
        refine ⟨m', _, h, ?_⟩
        apply Agrees.of_none
        rcases hgoes with hf | hf
        · rw [collect_continuing group hf, if_neg hlen]
        · rw [collect_other _ hfirst (by rw [hf]; decide)]

/-- Receiving a frame agrees with the pending group, unless the frame goes on with a packet
whose last segment was rejected. -/
theorem extractPackets_agrees (P : SpacePacketBase) (D : PacketDestination σ)
    {pending : Option (List TcTransferFrame)} (env : σ) (hm : HoldsPending m pending)
    (hnone : GoesOn frame → pending = none → ¬ (m.lastSegmentationFlag = firstPortion ∨
      m.lastSegmentationFlag = continuingPortion)) :
  ∃ m' e, m.extractPackets P D frame env = some (m', e) ∧
    m'.lastSegmentationFlag = frame.getSequenceFlags ∧
    Agrees pending frame m' e.status e.forwarded
  := by
  have hhandle : ∃ m' e, m.handleSegment P D frame env = some (m', e) ∧
      Agrees pending frame m' e.status e.forwarded := by
    simp only [handleSegment]
    split_ifs with hno hfirst hnext
    · refine ⟨m, _, rfl, ?_, ?_⟩
      · intro g hg
        rw [collect_other _ (by rw [hno]; decide) (by rw [hno]; decide)] at hg
        cases hg
      · intro h
        apply absurd hno h
    · apply firstSegment_agrees pending env hfirst
    · apply nextSegment_agrees D env hm hnext (hnone hnext)
    · refine ⟨_, _, rfl, ?_⟩
      rw [not_or] at hnext
      apply Agrees.of_none (collect_other pending hfirst hnext.1)
  obtain ⟨m', e, h, hagrees⟩ := hhandle
  refine ⟨{ m' with lastSegmentationFlag := frame.getSequenceFlags }, e, ?_, rfl, ?_, ?_⟩
  · rw [extractPackets, h]
  · intro g hg
    obtain ⟨⟨h₁, h₂, h₃, h₄⟩, hok⟩ := hagrees.holds g hg
    exact ⟨⟨h₁, h₂, h₃, h₄⟩, hok⟩
  · apply hagrees.forwards

/-! ### Runs of a map channel -/

/-- One step of a map channel: it receives a frame, and gives the status it returns and the
packets it forwards. -/
def step (P : SpacePacketBase) (D : PacketDestination σ) :
    Step (MapPacketExtraction × σ) TcTransferFrame (ReturnValue × List (List UInt8))
  | (m, env), frame =>
      match m.extractPackets P D frame env with
      | none => none
      | some (m, e) => some ((m, e.env), (e.status, e.forwarded))

/-- What holds of a map channel after it has received `frames` with the outputs `os`: it
remembers the flag of the last frame, and if a group is pending, then the group is what it
holds, is at the end of the frames received, and was accepted. -/
structure Collecting (frames : List TcTransferFrame) (os : List (ReturnValue × List (List UInt8)))
    (m : MapPacketExtraction) : Prop where
  lastFlag_nil : frames = [] → m.lastSegmentationFlag = noSegmentation
  lastFlag_append : ∀ earlier previous, frames = earlier ++ [previous] →
    m.lastSegmentationFlag = previous.getSequenceFlags
  holds : ∀ g, pending frames = some g → Holds m g
  accepted : ∀ g, pending frames = some g → IsStarted g ∧ ∃ earlier os₁ os₂,
    frames = earlier ++ g ∧ os = os₁ ++ os₂ ∧ os₁.length = earlier.length ∧
    ∀ o ∈ os₂, o.1 = .ok

namespace Collecting

variable {frames : List TcTransferFrame} {os : List (ReturnValue × List (List UInt8))}

theorem holdsPending (h : Collecting frames os m) :
  HoldsPending m (pending frames)
  := by
  intro g hg
  use h.holds g hg
  induction frames using List.reverseRecOn with
  | nil =>
      cases hg
  | append_singleton earlier previous =>
      rw [h.lastFlag_append earlier previous rfl]
      rw [pending_append] at hg
      obtain ⟨-, ⟨hf, -⟩ | ⟨hf, -⟩⟩ := collect_eq_some hg
      · left
        apply hf
      · right
        apply hf

/-- A frame that goes on with a packet while no group is pending does not follow a first or
continuing segment. -/
theorem not_followed (h : Collecting frames os m) (hnone : NoneAfterRejected (frames ++ [frame]))
    (hgoes : GoesOn frame) (hpending : pending frames = none) :
  ¬ (m.lastSegmentationFlag = firstPortion ∨ m.lastSegmentationFlag = continuingPortion)
  := by
  induction frames using List.reverseRecOn with
  | nil =>
      rw [h.lastFlag_nil rfl]
      decide
  | append_singleton earlier previous =>
      intro hflag
      rw [h.lastFlag_append earlier previous rfl] at hflag
      apply hnone earlier previous frame _ hflag hgoes hpending
      simp

/-- A frame whose outcome agrees with the pending group is collected. -/
theorem append (h : Collecting frames os m) (hlength : os.length = frames.length)
    {m' : MapPacketExtraction} {o : ReturnValue × List (List UInt8)}
    (hflag : m'.lastSegmentationFlag = frame.getSequenceFlags)
    (hagrees : Agrees (pending frames) frame m' o.1 o.2) :
  Collecting (frames ++ [frame]) (os ++ [o]) m'
  := by
  constructor
  · simp
  · intro earlier previous heq
    obtain ⟨-, heq⟩ := List.append_inj' heq rfl
    cases heq
    apply hflag
  · intro g hg
    rw [pending_append] at hg
    apply (hagrees.holds g hg).1
  · intro g hg
    rw [pending_append] at hg
    have hok := (hagrees.holds g hg).2
    obtain ⟨-, ⟨hf, rfl⟩ | ⟨hf, g', hg', rfl⟩⟩ := collect_eq_some hg
    · constructor
      · use frame, [], rfl, hf
        simp
      · use frames, os, [o], rfl, rfl, hlength
        simpa using hok
    · obtain ⟨hstarted, earlier, os₁, os₂, rfl, rfl, hlen, hoks⟩ := h.accepted g' hg'
      use hstarted.append hf
      use earlier, os₁, os₂ ++ [o]
      simp only [List.append_assoc, true_and, List.mem_append, List.mem_singleton]
      use hlen
      rintro o' (ho' | rfl)
      · apply hoks o' ho'
      · apply hok

end Collecting

theorem collecting_new :
  Collecting [] [] new
  := by
  constructor
  · intro _
    rfl
  · simp
  · intro g hg
    cases hg
  · intro g hg
    cases hg

/-- A map channel collects the frames it receives. -/
theorem run_collecting (P : SpacePacketBase) (D : PacketDestination σ) (env : σ)
    {frames : List TcTransferFrame} (h : NoneAfterRejected frames) :
  ∃ m env' os, (step P D).run (new, env) frames = some ((m, env'), os) ∧
    os.length = frames.length ∧ Collecting frames os m
  := by
  induction frames using List.reverseRecOn with
  | nil =>
      use new, env, [], rfl, rfl
      apply collecting_new
  | append_singleton frames frame ih =>
      obtain ⟨m, env', os, hrun, hlength, hm⟩ := ih h.of_append
      obtain ⟨m', e, he, hflag, hagrees⟩ :=
        extractPackets_agrees P D env' hm.holdsPending (hm.not_followed h)
      use m', e.env, os ++ [(e.status, e.forwarded)]
      constructor
      · apply Step.run_append hrun
        simp [Step.run, step, he]
      · constructor
        · simp [hlength]
        · apply hm.append hlength hflag hagrees

/-- The packet is the data of a first segment, any number of continuing segments and the last
segment `frame`, which were received one after another at the end of `frames` and were all
accepted. Here `os` are the outputs for `frames`, and `status` is the one for `frame`. -/
def IsReassembled (frames : List TcTransferFrame) (frame : TcTransferFrame)
    (os : List (ReturnValue × List (List UInt8))) (status : ReturnValue)
    (packet : List UInt8) : Prop :=
  ∃ earlier first continuing os₁ os₂,
    frames = earlier ++ first :: continuing ∧ os = os₁ ++ os₂ ∧
    os₁.length = earlier.length ∧
    first.getSequenceFlags = firstPortion ∧
    (∀ f ∈ continuing, f.getSequenceFlags = continuingPortion) ∧
    frame.getSequenceFlags = lastPortion ∧
    packet = (first :: continuing ++ [frame]).flatMap dataOf ∧
    (∀ o ∈ os₂, o.1 = .ok) ∧ status = .ok

/-- A new map channel can receive `frames` and then `frame`, and every packet it forwards on
`frame`, if that is a segment, is reassembled from the segments received. -/
def ForwardsReassembled (P : SpacePacketBase) (D : PacketDestination σ) (env : σ)
    (frames : List TcTransferFrame) (frame : TcTransferFrame) : Prop :=
  ∃ s os status forwarded,
    (step P D).run (new, env) (frames ++ [frame]) = some (s, os ++ [(status, forwarded)]) ∧
    (frame.getSequenceFlags ≠ noSegmentation →
      ∀ packet ∈ forwarded, IsReassembled frames frame os status packet)

/-- Whatever frames a map channel receives, as long as no segment that goes on with a packet
directly follows a first or continuing segment that was rejected, every packet it forwards on
a segment is reassembled from segments that were received one after another and were all
accepted. -/
theorem forwards_reassembled (P : SpacePacketBase) (D : PacketDestination σ) (env : σ)
    {frames : List TcTransferFrame} {frame : TcTransferFrame}
    (h : NoneAfterRejected (frames ++ [frame])) :
  ForwardsReassembled P D env frames frame
  := by
  obtain ⟨m, env', os, hrun, hlength, hm⟩ := run_collecting P D env h.of_append
  obtain ⟨m', e, he, -, hagrees⟩ :=
    extractPackets_agrees P D env' hm.holdsPending (hm.not_followed h)
  use (m', e.env), os, e.status, e.forwarded
  constructor
  · apply Step.run_append hrun
    simp [Step.run, step, he]
  · intro hseg packet hmem
    obtain ⟨hlast, hok, g, hg, rfl⟩ := hagrees.forwards hseg packet hmem
    obtain ⟨⟨first, continuing, rfl, hfirst, hcont⟩, earlier, os₁, os₂, hframes, hos, hlen, hoks⟩ :=
      hm.accepted g hg
    exact ⟨earlier, first, continuing, os₁, os₂, hframes, hos, hlen, hfirst, hcont, hlast, rfl,
      hoks, hok⟩

end

/-- Space packets with their length at the fifth and sixth byte. -/
def spacePackets : SpacePacketBase where
  minimumSize := 7
  getFullSize position := (position 4).toNat * 256 + (position 5).toNat + 7
  getFullSize_pos position := by
    omega

/-- A destination that takes every packet. -/
def openDestination : PacketDestination Unit where
  packetStore :=
    { addData := fun _ env => (.ok, ⟨0, 0⟩, env)
      deleteData := fun _ env => (.ok, env) }
  sendMessage _ env := (.ok, env)

/-- A frame with the segmentation flag and one byte of data. -/
def segment (flag data : UInt8) : TcTransferFrame where
  bytes i := if i = 3 then 8 else if i = 5 then flag <<< 6 else if i = 6 then data else 0

/-- A packet of two segments is forwarded. -/
theorem forwards_reassembled_two :
  NoneAfterRejected [segment firstPortion 1, segment lastPortion 2] ∧
  ForwardsReassembled spacePackets openDestination () [segment firstPortion 1]
    (segment lastPortion 2)
  := by
  have h : NoneAfterRejected [segment firstPortion 1, segment lastPortion 2] := by
    intro earlier previous frame hpre _ _
    have hnil : earlier = [] := by
      simpa using hpre.length_le
    subst hnil
    simp only [List.nil_append, List.cons_prefix_cons] at hpre
    rw [hpre.1]
    apply Option.ne_none_iff_isSome.mpr
    decide
  exact ⟨h, forwards_reassembled spacePackets openDestination () h⟩

/-- A last segment after a rejected continuing segment is forwarded as a packet. -/
theorem not_forwards_reassembled_orphan :
  ¬ ForwardsReassembled spacePackets openDestination () [segment continuingPortion 1]
    (segment lastPortion 2)
  := by
  rintro ⟨s, os, status, forwarded, hrun, h⟩
  have hrun' : ∃ s', (step spacePackets openDestination).run (new, ())
      [segment continuingPortion 1, segment lastPortion 2] =
      some (s', [(CCSDSReturnValuesIF.illegalSegmentationFlag, []), (.ok, [[2]])]) := by
    exact ⟨_, rfl⟩
  obtain ⟨s', hrun'⟩ := hrun'
  have hos : os ++ [(status, forwarded)] =
      [(CCSDSReturnValuesIF.illegalSegmentationFlag, [])] ++ [(.ok, [[2]])] :=
    congrArg Prod.snd (Option.some.inj (hrun.symm.trans hrun'))
  obtain ⟨-, hlast⟩ := List.append_inj' hos rfl
  cases hlast
  obtain ⟨earlier, first, continuing, _, _, hframes, _, _, hfirst, _⟩ :=
    h (by decide) [2] List.mem_cons_self
  have hmem : first ∈ [segment continuingPortion 1] := by
    simp [hframes]
  rw [List.mem_singleton] at hmem
  rw [hmem] at hfirst
  revert hfirst
  decide

end MapPacketExtraction
