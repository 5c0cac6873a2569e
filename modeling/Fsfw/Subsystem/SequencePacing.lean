import Fsfw.Subsystem.Transitions

/-!
# The pace of a sequence

`Pace` follows the log of a subsystem, and says what a sequence of tables is for: the next table is
commanded when the commands of the current one have been answered and its wait time has passed
since then, and a mode is reached when all tables have been commanded, and the children have
reported the modes of the target table.

A subsystem keeps the pace in every run in which the replies during a transition answer commands of
the current table, and no transition starts while a wait time is running (`keepsPace_of_run`).
-/

/-- What is known of the transition that is going on: the modes that the queues have reported, the
target, the tables that are still to be commanded, whether none has been commanded yet, and the
commands of the current table that have not been answered, since when there has been none or the
last answer, and the time to wait after it. -/
structure Pace where
  reports : MessageQueueId → Option (Mode × Submode)
  targetTable : List ModeListEntry
  targetMode : Mode
  targetSubmode : Submode
  tables : List ModeListEntry
  first : Bool
  waiting : List ℕ
  since : ℕ
  waitSeconds : UInt8

namespace Pace

/-- A subsystem without a transition. -/
def start : Pace where
  reports _ := none
  targetTable := []
  targetMode := 0
  targetSubmode := 0
  tables := []
  first := true
  waiting := []
  since := 0
  waitSeconds := 0

/-- The next table may be commanded: all commands of the current table have been answered, and the
wait time has passed since then. -/
def MayProceed (p : Pace) (uptime : ℕ) : Prop :=
  p.waiting = [] ∧ p.since + p.waitSeconds.toNat * 1000 ≤ uptime

instance (p : Pace) (uptime : ℕ) : Decidable (p.MayProceed uptime) :=
  inferInstanceAs (Decidable (_ ∧ _))

/-- The mode that a child has reported last, or the one it is registered with. -/
def reportedMode (children : List (ObjectId × ChildInfo)) (p : Pace) (object : ObjectId) :
    Option (Mode × Submode) :=
  (children.find? fun child => child.1 = object).map fun child =>
    (p.reports child.2.commandQueue).getD (child.2.mode, child.2.submode)

/-- The mode may be reached: all tables have been commanded, and the children have reported the
modes of the target table. -/
def MayReach (children : List (ObjectId × ChildInfo)) (p : Pace) (mode : Mode)
    (submode : Submode) : Prop :=
  p.tables = [] ∧ mode = p.targetMode ∧ submode = p.targetSubmode ∧
    ∀ entry ∈ p.targetTable, p.reportedMode children entry.getObject
      = some (entry.getMode, entry.submodeFor p.targetSubmode)

instance (children : List (ObjectId × ChildInfo)) (p : Pace) (mode : Mode) (submode : Submode) :
    Decidable (p.MayReach children mode submode) :=
  inferInstanceAs (Decidable (_ ∧ _ ∧ _ ∧ _))

/-- Enter an event, which has to keep the pace. -/
def enter (children : List (ObjectId × ChildInfo)) (p : Pace) : SubsystemEvent → Option Pace
  | .started targetTable targetMode targetSubmode tables =>
      some { p with
        targetTable := targetTable
        targetMode := targetMode
        targetSubmode := targetSubmode
        tables := tables
        first := true
        waiting := [] }
  | .commanded uptime table commands =>
      match p.tables with
      | [] => none
      | next :: tables =>
          if table = next ∧ (p.first = false → p.MayProceed uptime) then
            some { p with
              tables := tables
              first := false
              waiting := commands
              since := uptime
              waitSeconds := table.getWaitSeconds }
          else
            none
  | .answered uptime command =>
      if command ∈ p.waiting then
        some { p with waiting := p.waiting.erase command, since := uptime }
      else
        some p
  | .reported sender mode submode =>
      some { p with reports := Function.update p.reports sender (some (mode, submode)) }
  | .reached mode submode => if p.MayReach children mode submode then some p else none

end Pace

namespace SubsystemRun

variable {children : List (ObjectId × ChildInfo)} {c c' : SubsystemRun} {p p' : Pace}
  {w : Surroundings}

/-- The log of the subsystem keeps the pace. -/
def KeepsPace (children : List (ObjectId × ChildInfo)) (c : SubsystemRun) : Prop :=
  ∃ p, c.log.foldlM (Pace.enter children) Pace.start = some p

/-- The commands that wait for an answer after an event. -/
def waitingAfter (commands : List ℕ) : SubsystemEvent → List ℕ
  | .started .. => []
  | .commanded _ _ commands => commands
  | .answered _ command => commands.erase command
  | _ => commands

/-- The commands of the current table that have not been answered. -/
def waiting (c : SubsystemRun) : List ℕ :=
  c.log.foldl waitingAfter []

/-- The current table is not kept. -/
def LosesTable (c : SubsystemRun) (entry : ModeListEntry) : Prop :=
  entry.checkSuccess = true ∧
    ∀ table, c.getTable entry.getTableId = some table →
      c.checkStateAgainstTable c.targetSubmode table ≠ .ok

/-- Replies that are counted answer commands of the current table, if any of them waits for an
answer.  While a wait time is running no mode is commanded, and the current table is kept. -/
def Sound (c : SubsystemRun) : ℕ × SubsystemInput → Prop
  | (_, .modeCommand _ mode _ _) =>
      c.isInTransition = true → c.checkModeCommand mode = some .ok → c.uptimeStartTable = 0
  | (_, .modeReply _ reply answers) =>
      c.isInTransition = true → isCounted reply = true → c.waiting ≠ [] →
        ∃ command ∈ c.waiting, answers = some command
  | (_, .performChildOperation _) =>
      c.isInTransition = true → c.commandsOutstanding ≤ 0 →
        ∀ entry tables, c.currentSequenceIterator = entry :: tables → c.LosesTable entry →
          c.uptimeStartTable = 0
  | _ => True

/-! ### Following the pace -/

/-- A child with what its queue has reported. -/
def withReport (reports : MessageQueueId → Option (Mode × Submode))
    (child : ObjectId × ChildInfo) : ObjectId × ChildInfo :=
  let report := (reports child.2.commandQueue).getD (child.2.mode, child.2.submode)
  (child.1, { child.2 with mode := report.1, submode := report.2 })

/-- The transition of the subsystem is the one that the pace follows.  The count is the number of
commands that wait, unless there are none, and a wait time that is running has been started after
the last answer. -/
structure InTransition (c : SubsystemRun) (p : Pace) : Prop where
  targetTable : c.currentTargetTable = p.targetTable
  targetMode : c.targetMode = p.targetMode
  targetSubmode : c.targetSubmode = p.targetSubmode
  tables : c.currentSequenceIterator.tail = p.tables
  current : ∀ entry tables, c.currentSequenceIterator = entry :: tables →
    p.first = false ∧ p.waitSeconds = entry.getWaitSeconds
  outstanding : c.commandsOutstanding = p.waiting.length ∨
    p.waiting = [] ∧ c.commandsOutstanding ≤ 0
  timer : c.uptimeStartTable ≠ 0 → c.currentSequenceIterator ≠ [] ∧ p.waiting = [] ∧
    ∃ uptime, c.uptimeStartTable = .ofNat uptime ∧ p.since ≤ uptime ∧ uptime ≤ c.uptime

/-- The pace knows the log of the subsystem, and the modes of its children. -/
structure Knows (children : List (ObjectId × ChildInfo)) (c : SubsystemRun) (p : Pace) :
    Prop where
  log : c.log.foldlM (Pace.enter children) Pace.start = some p
  childrenMap : c.childrenMap = children.map (withReport p.reports)
  waiting : c.waiting = p.waiting
  since : p.since ≤ c.uptime

/-- The pace follows the subsystem. -/
structure Follows (children : List (ObjectId × ChildInfo)) (c : SubsystemRun) (p : Pace) : Prop
    extends Knows children c p where
  transition : c.isInTransition = true → InTransition c p
  idle : c.isInTransition = false → c.uptimeStartTable = 0

/-- The pace knows which commands wait. -/
theorem waiting_enter {event : SubsystemEvent} (h : p.enter children event = some p') :
  p'.waiting = waitingAfter p.waiting event
  := by
  cases event with
  | started _ _ _ _ | reported _ _ _ =>
      cases h
      rfl
  | commanded uptime table commands =>
      simp only [Pace.enter] at h
      split at h
      · cases h
      · split_ifs at h
        cases h
        rfl
  | answered uptime command =>
      simp only [Pace.enter] at h
      split_ifs at h with hmem
      · cases h
        rfl
      · cases h
        apply (List.erase_of_not_mem hmem).symm
  | reached mode submode =>
      simp only [Pace.enter] at h
      split_ifs at h
      cases h
      rfl

/-- An event that keeps the pace is entered into the log. -/
theorem enter_log (hlog : c.log.foldlM (Pace.enter children) Pace.start = some p)
    (hwaiting : c.waiting = p.waiting) (event : SubsystemEvent)
    (henter : p.enter children event = some p') :
  (c.record event).log.foldlM (Pace.enter children) Pace.start = some p' ∧
    (c.record event).waiting = p'.waiting
  := by
  constructor
  · rw [SubsystemRun.record, List.foldlM_append, hlog]
    apply (Option.bind_some _ _).trans
    rw [List.foldlM_cons, henter]
    rfl
  · rw [waiting_enter henter, ← hwaiting]
    simp only [waiting, record, List.foldl_append, List.foldl_cons, List.foldl_nil]

/-- An event that tells nothing about the children is entered into the log. -/
theorem Knows.record (h : Knows children c p) (event : SubsystemEvent)
    (henter : p.enter children event = some p') (hreports : p'.reports = p.reports)
    (hsince : p'.since ≤ c.uptime) :
  Knows children (c.record event) p'
  where
  log := (enter_log h.log h.waiting event henter).1
  childrenMap := by
    rw [hreports]
    apply h.childrenMap
  waiting := (enter_log h.log h.waiting event henter).2
  since := hsince

/-- The pace does not see the other parts of the subsystem. -/
theorem Knows.of_eq (h : Knows children c p) (c' : SubsystemRun) (hlog : c'.log = c.log)
    (hmap : c'.childrenMap = c.childrenMap) (huptime : c.uptime ≤ c'.uptime) :
  Knows children c' p
  where
  log := hlog ▸ h.log
  childrenMap := hmap ▸ h.childrenMap
  waiting := by
    rw [← h.waiting, SubsystemRun.waiting, hlog]
    rfl
  since := h.since.trans huptime

/-- A table is commanded in a transition of which no other table has been commanded, or when the
current one is done. -/
theorem Knows.executeTable (h : Knows children c p) {entry : ModeListEntry}
    {tables table : List ModeListEntry} (hiterator : c.currentSequenceIterator = entry :: tables)
    (htables : p.tables = entry :: tables) (htimer : c.uptimeStartTable = 0)
    (htarget : c.currentTargetTable = p.targetTable ∧ c.targetMode = p.targetMode ∧
      c.targetSubmode = p.targetSubmode)
    (hmay : p.first = false → p.MayProceed c.uptime) (htransition : c.isInTransition = true) :
  ∃ p', Follows children (c.executeTable w entry table) p'
  := by
  let commands := (c.toSubsystemBase.executeTable w.healthTable w.sent table c.targetSubmode).2
  have henter : p.enter children
      (.commanded c.uptime entry (List.range' c.commandsSent commands.length)) =
      some { p with
        tables := tables
        first := false
        waiting := List.range' c.commandsSent commands.length
        since := c.uptime
        waitSeconds := entry.getWaitSeconds } := by
    simp only [Pace.enter, htables]
    apply if_pos
    exact ⟨trivial, hmay⟩
  have hknows := h.record _ henter rfl le_rfl
  refine ⟨_, ⟨hknows.of_eq _ rfl rfl le_rfl, ?_, ?_⟩⟩
  · intro _
    constructor
    · apply htarget.1
    · apply htarget.2.1
    · apply htarget.2.2
    · apply congrArg List.tail hiterator
    · intro next rest hnext
      cases hiterator.symm.trans hnext
      exact ⟨rfl, rfl⟩
    · left
      rw [List.length_range']
      rfl
    · intro hne
      contradiction
  · intro hidle
    cases htransition.symm.trans hidle

/-- A transition starts when no wait time is running. -/
theorem Knows.startTransition (h : Knows children c p) (htimer : c.uptimeStartTable = 0)
    {sequence : Mode} {submode : Submode}
    (hstart : c.startTransition w sequence submode = some c') :
  ∃ p', Follows children c' p'
  := by
  simp only [SubsystemRun.startTransition] at hstart
  split at hstart
  · rename_i target tables _
    split at hstart
    · cases hstart
    · rename_i targetTable _
      have hknows := h.record (.started targetTable sequence submode tables) rfl rfl
        h.since
      split at hstart
      · cases hstart
        refine ⟨_, ⟨hknows.of_eq _ rfl rfl le_rfl, ?_, nofun⟩⟩
        intro _
        exact ⟨rfl, rfl, rfl, rfl, nofun, .inr ⟨rfl, le_rfl⟩, fun hne => absurd htimer hne⟩
      · rename_i entry rest _
        split at hstart
        · cases hstart
        · rename_i table _
          cases hstart
          let started := { c with
            targetMode := sequence
            targetSubmode := submode
            isInTransition := true
            commandsOutstanding := 0
            currentTargetTable := targetTable
            currentSequenceIterator := entry :: rest }.record
            (.started targetTable sequence submode (entry :: rest))
          have hstarted := hknows.of_eq started rfl rfl le_rfl
          apply hstarted.executeTable rfl rfl htimer ⟨rfl, rfl, rfl⟩ nofun rfl
  · cases hstart

/-- A transition fails when no wait time is running. -/
theorem Knows.transitionFailed (h : Knows children c p) (htimer : c.uptimeStartTable = 0)
    (hfailed : c.transitionFailed w = some c') :
  ∃ p', Follows children c' p'
  := by
  simp only [SubsystemRun.transitionFailed] at hfailed
  split at hfailed
  · split at hfailed
    · cases hfailed
    · have hknows := h.of_eq
        { c with forced := true, mode := c.getFallbackSequence c.mode } rfl rfl le_rfl
      apply hknows.startTransition htimer hfailed
    · cases hfailed
      exact ⟨p, h.of_eq _ rfl rfl le_rfl, nofun, fun _ => htimer⟩
  · apply h.startTransition htimer hfailed

/-- The fallback sequence is started when there is no transition. -/
theorem Follows.cantKeepMode (h : Follows children c p) (hidle : c.isInTransition = false)
    (hkeep : c.cantKeepMode w = some c') :
  ∃ p', Follows children c' p'
  := by
  simp only [SubsystemRun.cantKeepMode] at hkeep
  split at hkeep
  · cases hkeep
  · have hknows := h.toKnows.of_eq
      { c with forced := true, mode := c.getFallbackSequence c.mode } rfl rfl le_rfl
    apply hknows.startTransition (h.idle hidle) hkeep
  · cases hkeep
    use p

/-- When nothing is outstanding, no command waits. -/
theorem InTransition.waiting_nil (h : InTransition c p) (hdone : c.commandsOutstanding ≤ 0) :
  p.waiting = []
  := by
  obtain hcount | ⟨hnil, _⟩ := h.outstanding
  · apply List.length_eq_zero_iff.mp
    omega
  · apply hnil

/-- The wait time has passed when it has passed on the clock, which may have overflowed. -/
theorem waited {now start : ℕ} {seconds : UInt8} (hstart : start ≤ now)
    (hclock : ¬ UInt32.ofNat now - UInt32.ofNat start < seconds.toUInt32 * 1000) :
  start + seconds.toNat * 1000 ≤ now
  := by
  rw [← UInt32.ofNat_sub hstart, UInt32.lt_iff_toNat_lt, UInt32.toNat_mul, UInt32.toNat_ofNat',
    UInt8.toNat_toUInt32, UInt32.toNat_ofNat] at hclock
  have hproduct : seconds.toNat * (1000 % 2 ^ 32) % 2 ^ 32 = seconds.toNat * 1000 := by
    apply Nat.mod_eq_of_lt
    have := seconds.toNat_lt
    omega
  rw [hproduct] at hclock
  have hle : (now - start) % 2 ^ 32 ≤ now - start := Nat.mod_le _ _
  omega

/-- After the replies the wait time is waited for, and then the next table is commanded. -/
theorem Follows.awaitNextTable (h : Follows children c p) (htransition : c.isInTransition = true)
    (hdone : c.commandsOutstanding ≤ 0) {entry : ModeListEntry} {tables : List ModeListEntry}
    (hiterator : c.currentSequenceIterator = entry :: tables)
    (hawait : c.awaitNextTable w entry tables = some c') :
  ∃ p', Follows children c' p'
  := by
  have ht := h.transition htransition
  have hnil := ht.waiting_nil hdone
  have htables : p.tables = tables := by
    rw [← ht.tables, hiterator]
    rfl
  obtain ⟨hfirst, hwait⟩ := ht.current entry tables hiterator
  simp only [SubsystemRun.awaitNextTable] at hawait
  split at hawait
  · cases hawait
    refine ⟨p, h.toKnows.of_eq _ rfl rfl le_rfl, ?_, ?_⟩
    · intro _
      use ht.targetTable, ht.targetMode, ht.targetSubmode, ht.tables, ht.current, ht.outstanding
      intro _
      use hiterator ▸ List.cons_ne_nil entry tables, hnil, c.uptime, rfl, h.since
    · intro hidle
      cases htransition.symm.trans hidle
  · rename_i hstarted
    split at hawait
    · cases hawait
      use p
    · rename_i hwaited
      have hmay : p.MayProceed c.uptime := by
        use hnil
        rw [hwait]
        by_cases hzero : entry.getWaitSeconds = 0
        · rw [hzero]
          apply h.since
        · have hne : c.uptimeStartTable ≠ 0 := fun hstart => hstarted ⟨hzero, hstart⟩
          obtain ⟨_, _, uptime, huptime, hsince, hle⟩ := ht.timer hne
          rw [huptime] at hwaited
          have := waited hle (fun hlt => hwaited ⟨hzero, hlt⟩)
          omega
      have hknows := h.toKnows.of_eq
        { c with uptimeStartTable := 0, currentSequenceIterator := tables } rfl rfl le_rfl
      split at hawait
      · cases hawait
        refine ⟨p, hknows, ?_, fun _ => rfl⟩
        intro _
        use ht.targetTable, ht.targetMode, ht.targetSubmode, htables.symm, nofun, ht.outstanding
        exact fun hne => absurd rfl hne
      · rename_i next rest _
        split at hawait
        · cases hawait
        · cases hawait
          apply hknows.executeTable rfl htables rfl
            ⟨ht.targetTable, ht.targetMode, ht.targetSubmode⟩ (fun _ => hmay) htransition

/-! ### The children -/

/-- The report of another queue does not concern a child. -/
theorem withReport_update_of_ne {reports : MessageQueueId → Option (Mode × Submode)}
    {queue : MessageQueueId} {report : Option (Mode × Submode)} {child : ObjectId × ChildInfo}
    (hne : child.2.commandQueue ≠ queue) :
  withReport (Function.update reports queue report) child = withReport reports child
  := by
  rw [withReport, Function.update_of_ne hne]
  rfl

/-- When the children have different queues, a report changes what is known of the child that has
sent it. -/
theorem updateChild_withReport {reports : MessageQueueId → Option (Mode × Submode)}
    {queue : MessageQueueId} {mode : Mode} {submode : Submode}
    (hqueues : (children.map fun child => child.2.commandQueue).Nodup) :
  SubsystemBase.updateChild queue (fun child => { child with mode, submode })
      (children.map (withReport reports))
    = children.map (withReport (Function.update reports queue (some (mode, submode))))
  := by
  induction children with
  | nil =>
      rfl
  | cons child rest ih =>
      obtain ⟨hhead, hrest⟩ := List.nodup_cons.mp hqueues
      rw [List.map_cons, List.map_cons, SubsystemBase.updateChild]
      split
      · rename_i hqueue
        have hqueue : child.2.commandQueue = queue := hqueue
        congr 1
        · simp only [withReport, hqueue, Function.update_self, Option.getD_some]
        · apply List.map_congr_left
          intro other hother
          apply (withReport_update_of_ne _).symm
          intro heq
          apply hhead
          apply List.mem_map.mpr
          use other, hother, heq.trans hqueue.symm
      · rename_i hqueue
        have hqueue : child.2.commandQueue ≠ queue := hqueue
        rw [ih hrest, withReport_update_of_ne hqueue]

/-- What is known of a child is what it has reported. -/
theorem reportedMode_of_findChild (h : Knows children c p) {object : ObjectId} {child : ChildInfo}
    (hchild : c.findChild object = some child) :
  p.reportedMode children object = some (child.mode, child.submode)
  := by
  rw [SubsystemBase.findChild, h.childrenMap, List.find?_map, Option.map_map] at hchild
  rw [Pace.reportedMode]
  obtain ⟨found, hfound, rfl⟩ := Option.map_eq_some_iff.mp hchild
  rw [show (children.find? fun child => child.1 = object) = some found from hfound]
  rfl

/-- A table that is kept has the modes that the children have reported. -/
theorem reportedMode_of_check (h : Knows children c p) {submode : Submode}
    {table : List ModeListEntry} (hcheck : c.checkStateAgainstTable submode table = .ok) :
  ∀ entry ∈ table, p.reportedMode children entry.getObject
    = some (entry.getMode, entry.submodeFor submode)
  := by
  induction table with
  | nil =>
      intro entry hentry
      cases hentry
  | cons first rest ih =>
      simp only [SubsystemBase.checkStateAgainstTable] at hcheck
      split at hcheck
      · cases hcheck
      · rename_i child hchild
        split_ifs at hcheck with hmode hsubmode
        intro entry hentry
        obtain rfl | hentry := List.mem_cons.mp hentry
        · rw [reportedMode_of_findChild h hchild, not_ne_iff.mp hmode, not_ne_iff.mp hsubmode]
        · apply ih hcheck entry hentry

/-! ### The steps -/

/-- A table is commanded or a mode is reached when it is time. -/
theorem Follows.performChildOperation (h : Follows children c p)
    (hlost : c.isInTransition = true → c.commandsOutstanding ≤ 0 →
      ∀ entry tables, c.currentSequenceIterator = entry :: tables → c.LosesTable entry →
        c.uptimeStartTable = 0)
    (hperform : c.performChildOperation w = some c') :
  ∃ p', Follows children c' p'
  := by
  simp only [SubsystemRun.performChildOperation] at hperform
  split at hperform
  · rename_i htransition
    have ht := h.transition htransition
    split at hperform
    · rename_i hdone
      split at hperform
      · rename_i hend
        have htimer : c.uptimeStartTable = 0 := by
          by_contra hne
          apply (ht.timer hne).1 hend
        split at hperform
        · rename_i hcheck
          cases hperform
          have hreach : p.MayReach children c.targetMode c.targetSubmode := by
            refine ⟨?_, ht.targetMode, ht.targetSubmode, ?_⟩
            · rw [← ht.tables, hend]
              rfl
            · rw [← ht.targetTable, ← ht.targetSubmode]
              apply reportedMode_of_check h.toKnows hcheck
          have hknows := h.toKnows.record
            (.reached c.targetMode c.targetSubmode) (if_pos hreach) rfl h.since
          exact ⟨p, hknows.of_eq _ rfl rfl le_rfl, nofun, fun _ => htimer⟩
        · split at hperform
          · cases hperform
          · apply h.toKnows.transitionFailed htimer hperform
      · rename_i entry tables hiterator
        split at hperform
        · rename_i hsuccess
          split at hperform
          · cases hperform
          · rename_i table htable
            split at hperform
            · apply h.awaitNextTable htransition hdone hiterator hperform
            · rename_i hcheck
              apply h.toKnows.transitionFailed _ hperform
              apply hlost htransition hdone entry tables hiterator
              use hsuccess
              intro table' htable'
              cases htable.symm.trans htable'
              apply hcheck
        · apply h.awaitNextTable htransition hdone hiterator hperform
    · cases hperform
      use p
  · rename_i hidle
    have hidle : c.isInTransition = false := eq_false_of_ne_true hidle
    split at hperform
    · have hknows := h.toKnows.of_eq { c with childrenChangedHealth := false } rfl rfl le_rfl
      apply hknows.startTransition (h.idle hidle) hperform
    · split at hperform
      · apply h.cantKeepMode hidle hperform
      · cases hperform
        use p

/-- Whether a table is in order does not depend on whether the mode is forced. -/
theorem checkTable_forced {S : SubsystemBase} {forced : Bool} (table : List ModeListEntry) :
  { S with forced }.checkTable table = S.checkTable table
  := by
  induction table with
  | nil =>
      rfl
  | cons entry rest ih =>
      simp only [SubsystemBase.checkTable, ih]
      rfl

theorem checkTables_forced {S : Subsystem} {forced : Bool} (iter : List ModeListEntry) :
  { S with forced }.checkTables iter = S.checkTables iter
  := by
  induction iter with
  | nil =>
      rfl
  | cons entry rest ih =>
      simp only [Subsystem.checkTables, checkTable_forced, ih]
      rfl

theorem checkModeCommand_forced {S : Subsystem} {forced : Bool} {mode : Mode} :
  { S with forced }.checkModeCommand mode = S.checkModeCommand mode
  := by
  simp only [Subsystem.checkModeCommand, Subsystem.checkSequence, Subsystem.checkSequenceEntries,
    checkTables_forced]
  rfl

/-- A mode is commanded when no wait time is running. -/
theorem Follows.handleModeCommand (h : Follows children c p) {forced : Bool} {mode : Mode}
    {submode : Submode} {result : ReturnValue}
    (hidle : c.isInTransition = true → c.checkModeCommand mode = some .ok →
      c.uptimeStartTable = 0)
    (hcommand : c.handleModeCommand w forced mode submode = some (result, c')) :
  ∃ p', Follows children c' p'
  := by
  have hknows := h.toKnows.of_eq { c with forced := c.forced || forced } rfl rfl le_rfl
  simp only [SubsystemRun.handleModeCommand] at hcommand
  split at hcommand
  · cases hcommand
  · rename_i hcheck
    rw [checkModeCommand_forced] at hcheck
    split at hcommand
    · cases hcommand
    · rename_i hstart
      cases hcommand
      apply hknows.startTransition _ hstart
      cases htransition : c.isInTransition with
      | false => apply h.idle htransition
      | true => apply hidle htransition hcheck
  · cases hcommand
    exact ⟨p, hknows, fun htransition => { h.transition htransition with }, h.idle⟩

/-- The subsystem after a report of a child. -/
def withReported (c : SubsystemRun) (sender : MessageQueueId) (mode : Mode) (submode : Submode) :
    SubsystemRun :=
  { c with
    toSubsystemBase := { c.updateChildMode sender mode submode with childrenChangedMode := true }
    log := c.log ++ [.reported sender mode submode] }

/-- The subsystem after a reply has been counted. -/
def withAnswered (c : SubsystemRun) (answers : Option ℕ) : SubsystemRun :=
  { c with
    commandsOutstanding := c.commandsOutstanding - 1
    log := c.log ++ answers.toList.map fun command => .answered c.uptime command }

/-- A report changes what is known of a child. -/
theorem Follows.reported (hqueues : (children.map fun child => child.2.commandQueue).Nodup)
    (h : Follows children c p) (sender : MessageQueueId) (mode : Mode) (submode : Submode) :
  Follows children (c.withReported sender mode submode)
    { p with reports := Function.update p.reports sender (some (mode, submode)) }
  := by
  obtain ⟨hlog, hwaiting⟩ := enter_log h.log h.waiting
    (.reported sender mode submode) rfl
  constructor
  · use hlog
    · rw [← updateChild_withReport hqueues, ← h.childrenMap]
      rfl
    · apply hwaiting
    · apply h.since
  · exact fun htransition => { h.transition htransition with }
  · apply h.idle

/-- When no command waits, the count goes below zero. -/
theorem InTransition.withAnswered (h : InTransition c p) (hnil : p.waiting = [])
    (answers : Option ℕ) :
  InTransition (c.withAnswered answers) p
  := by
  use h.targetTable, h.targetMode, h.targetSubmode, h.tables, h.current
  · right
    use hnil
    have hcount := h.outstanding
    rw [hnil] at hcount
    simp only [SubsystemRun.withAnswered, List.length_nil] at hcount ⊢
    omega
  · apply h.timer

/-- A reply that is counted answers a command, if one waits. -/
theorem Follows.answered (h : Follows children c p) {answers : Option ℕ}
    (hsound : c.isInTransition = true → c.waiting ≠ [] →
      ∃ command ∈ c.waiting, answers = some command) :
  ∃ p', Follows children (c.withAnswered answers) p'
  := by
  rw [h.waiting] at hsound
  cases answers with
  | none =>
      refine ⟨p, h.toKnows.of_eq _ (List.append_nil _) rfl le_rfl, fun htransition => ?_, h.idle⟩
      apply (h.transition htransition).withAnswered
      by_contra hne
      obtain ⟨_, _, hnone⟩ := hsound htransition hne
      cases hnone
  | some command =>
      by_cases hmem : command ∈ p.waiting
      · have hknows := h.toKnows.record (.answered c.uptime command) (if_pos hmem) rfl
          le_rfl
        refine ⟨_, hknows.of_eq _ rfl rfl le_rfl, fun htransition => ?_, h.idle⟩
        have ht := h.transition htransition
        use ht.targetTable, ht.targetMode, ht.targetSubmode, ht.tables, ht.current
        · left
          have hcount := ht.outstanding
          have hlength := List.length_pos_of_mem hmem
          simp only [SubsystemRun.withAnswered, List.length_erase_of_mem hmem] at hcount ⊢
          obtain hcount | ⟨hnil, _⟩ := hcount
          · omega
          · rw [hnil] at hmem
            cases hmem
        · intro hne
          rw [(ht.timer hne).2.1] at hmem
          cases hmem
      · have hknows := h.toKnows.record (.answered c.uptime command) (if_neg hmem) rfl
          h.since
        refine ⟨p, hknows.of_eq _ rfl rfl le_rfl, fun htransition => ?_, h.idle⟩
        apply (h.transition htransition).withAnswered
        by_contra hne
        obtain ⟨waits, hwaits, heq⟩ := hsound htransition hne
        cases heq
        apply hmem hwaits

/-- A reply is entered and counted. -/
theorem Follows.handleModeReply (hqueues : (children.map fun child => child.2.commandQueue).Nodup)
    (h : Follows children c p) {sender : MessageQueueId} {reply : ModeReply} {answers : Option ℕ}
    (hsound : c.isInTransition = true → isCounted reply = true → c.waiting ≠ [] →
      ∃ command ∈ c.waiting, answers = some command) :
  ∃ p', Follows children (c.handleModeReply sender reply answers) p'
  := by
  cases reply with
  | modeInfo mode submode =>
      have hreported := h.reported hqueues sender mode submode
      refine ⟨_, hreported.toKnows.of_eq _ (List.append_nil _) rfl le_rfl, ?_, hreported.idle⟩
      exact fun htransition => { hreported.transition htransition with }
  | modeReply mode submode | wrongModeReply mode submode =>
      have hreported := h.reported hqueues sender mode submode
      apply hreported.answered
      intro htransition hne
      rw [hreported.waiting, ← h.waiting] at hne ⊢
      apply hsound htransition rfl hne
  | cantReachMode reason =>
      obtain ⟨p', hanswered⟩ := h.answered fun htransition => hsound htransition rfl
      have hlog : (c.handleModeReply sender (.cantReachMode reason) answers).log
          = (c.withAnswered answers).log := by
        simp only [SubsystemRun.handleModeReply, reportOf, Option.toList_none, List.map_nil,
          List.append_nil]
        rfl
      refine ⟨p', hanswered.toKnows.of_eq _ hlog rfl le_rfl, ?_, hanswered.idle⟩
      exact fun htransition => { hanswered.transition htransition with }

/-- Every step follows the pace. -/
theorem Follows.next (hqueues : (children.map fun child => child.2.commandQueue).Nodup)
    (h : Follows children c p) {input : ℕ × SubsystemInput} {result : ReturnValue}
    (hsound : c.Sound input) (hnext : next c input = some (c', result)) :
  ∃ p', Follows children c' p'
  := by
  obtain ⟨elapsed, input⟩ := input
  have hlater : Follows children { c with uptime := c.uptime + elapsed } p := by
    refine ⟨h.toKnows.of_eq _ rfl rfl (Nat.le_add_right _ _), fun htransition => ?_, h.idle⟩
    have ht := h.transition htransition
    refine { ht with timer := fun hne => ?_ }
    obtain ⟨hiterator, hnil, uptime, heq, hsince, hle⟩ := ht.timer hne
    use hiterator, hnil, uptime, heq, hsince, Nat.le_add_right_of_le hle
  cases input with
  | performOperation =>
      cases hnext
      exact ⟨p, hlater.toKnows.of_eq _ rfl rfl le_rfl,
        fun htransition => { hlater.transition htransition with }, hlater.idle⟩
  | modeCommand forced mode submode surroundings =>
      obtain ⟨⟨_, c''⟩, hcommand, heq⟩ := Option.map_eq_some_iff.mp hnext
      cases heq
      apply hlater.handleModeCommand hsound hcommand
  | modeReply sender reply answers =>
      cases hnext
      apply hlater.handleModeReply hqueues hsound
  | healthInfo health =>
      cases hnext
      use p
      simp only [handleHealthInfo]
      split
      · apply hlater
      · exact ⟨hlater.toKnows.of_eq _ rfl rfl le_rfl,
          fun htransition => { hlater.transition htransition with }, hlater.idle⟩
  | performChildOperation surroundings =>
      obtain ⟨c'', hperform, heq⟩ := Option.map_eq_some_iff.mp hnext
      cases heq
      apply hlater.performChildOperation hsound hperform

/-- A subsystem that starts without a transition follows the pace. -/
theorem follows_start {S : Subsystem} (hidle : S.isInTransition = false)
    (htimer : S.uptimeStartTable = 0) (uptime : ℕ) :
  Follows S.childrenMap (start S uptime) Pace.start
  := by
  refine ⟨⟨rfl, ?_, rfl, Nat.zero_le _⟩, fun htransition => ?_, fun _ => htimer⟩
  · apply (List.map_id _).symm
  · cases hidle.symm.trans htransition

/-- The subsystem keeps the pace in every run in which the replies that are counted answer commands
of the current table, and no wait time is broken off. -/
theorem keepsPace_of_run {S : Subsystem} {uptime : ℕ}
    (hqueues : (S.childrenMap.map fun child => child.2.commandQueue).Nodup)
    (hidle : S.isInTransition = false) (htimer : S.uptimeStartTable = 0)
    {inputs : List (ℕ × SubsystemInput)} {results : List ReturnValue}
    (hsound : next.Along Sound (start S uptime) inputs)
    (hrun : next.run (start S uptime) inputs = some (c, results)) :
  c.KeepsPace S.childrenMap
  := by
  have hfollows : ∃ p, Follows S.childrenMap c p := by
    apply Step.run_preserves_along (I := fun c => ∃ p, Follows S.childrenMap c p) _ _ hsound hrun
    · rintro c input c' result ⟨p, h⟩ hsound hnext
      apply h.next hqueues hsound hnext
    · use Pace.start
      apply follows_start hidle htimer
  obtain ⟨p, h⟩ := hfollows
  use p
  apply h.log

/-- A subsystem with one child, whose sequences 100 and 200 command it to the modes 1 and 2.  The
fallback of both is the sequence 200, and after the mode 1 they wait for two seconds. -/
def oneChild : Subsystem where
  mode := 100
  submode := HasModesIF.submodeNone
  childrenChangedMode := false
  commandsOutstanding := 0
  forced := false
  childrenMap := [(1, ⟨10, 0, 0, false⟩)]
  isInTransition := false
  childrenChangedHealth := false
  uptimeStartTable := 0
  currentTargetTable := []
  targetMode := 0
  targetSubmode := HasModesIF.submodeNone
  currentSequenceIterator := []
  modeTables := ⟨fun i => (.ofNat i, ⟨false, [⟨1, .ofNat i, 0, 0⟩]⟩), 3, 3⟩
  modeSequences := ⟨fun i => (100 + 100 * .ofNat i,
    ⟨200, ⟨false, [⟨2, 0, 0, 0⟩, ⟨1, 2, 0, 0⟩, ⟨2, 0, 0, 0⟩]⟩⟩), 2, 2⟩

/-- Children without health, which can be commanded. -/
def commandable : Surroundings := ⟨fun _ => none, fun _ => true⟩

/-- The sequence 100 is commanded, and the child replies. -/
def paced : List (ℕ × SubsystemInput) :=
  [(0, .modeCommand false 100 0 commandable), (5, .modeReply 10 (.modeReply 1 0) (some 0)),
    (0, .performChildOperation commandable), (2000, .performChildOperation commandable),
    (5, .modeReply 10 (.modeReply 2 0) (some 1)), (0, .performChildOperation commandable),
    (0, .performChildOperation commandable)]

theorem keepsPace_of_run_oneChild :
  ∃ c results, next.run (start oneChild 1) paced = some (c, results) ∧
    (c.mode, c.submode) = (100, 0) ∧ c.KeepsPace oneChild.childrenMap
  := by
  obtain ⟨c, results, hrun, hreached⟩ : ∃ c results,
      next.run (start oneChild 1) paced = some (c, results) ∧ (c.mode, c.submode) = (100, 0) :=
    ⟨_, _, rfl, rfl⟩
  use c, results, hrun, hreached
  apply keepsPace_of_run (by decide) rfl rfl _ hrun
  have hkept : ∀ {c : SubsystemRun} {entry : ModeListEntry}, entry.checkSuccess = false →
      ¬ c.LosesTable entry := by
    intro c entry hunchecked hlost
    cases hunchecked.symm.trans hlost.1
  use nofun
  rintro _ _ ⟨⟩
  use fun _ _ _ => ⟨0, List.mem_singleton_self 0, rfl⟩
  rintro _ _ ⟨⟩
  constructor
  · rintro _ _ _ _ ⟨⟩ hlost
    apply absurd hlost (hkept rfl)
  rintro _ _ ⟨⟩
  constructor
  · rintro _ _ _ _ ⟨⟩ hlost
    apply absurd hlost (hkept rfl)
  rintro _ _ ⟨⟩
  use fun _ _ _ => ⟨1, List.mem_singleton_self 1, rfl⟩
  rintro _ _ ⟨⟩
  constructor
  · rintro _ _ _ _ ⟨⟩ hlost
    apply absurd hlost (hkept rfl)
  rintro _ _ ⟨⟩
  use fun _ _ _ _ h => nomatch h
  intros
  trivial

/-- After the fallback has been commanded, the reply to a command of the earlier transition is
counted for the first table, and the next one is commanded before the child has replied. -/
theorem not_keepsPace :
  ∃ c results, next.run (start oneChild 1)
      [(0, .modeCommand false 100 0 commandable), (0, .modeCommand false 200 0 commandable),
        (5, .modeReply 10 (.modeReply 1 0) (some 0)), (0, .performChildOperation commandable),
        (2000, .performChildOperation commandable)] = some (c, results) ∧
    ¬ c.KeepsPace oneChild.childrenMap
  := by
  refine ⟨_, _, rfl, ?_⟩
  rintro ⟨p, h⟩
  cases h

end SubsystemRun
