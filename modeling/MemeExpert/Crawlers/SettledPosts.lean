import MemeExpert.Crawlers.CrawlShape

/-! A cursor should pass only posts that need no further attempt. -/

namespace MemeExpert.Crawlers

open Runs

def CrawlState.Unsettled (s : CrawlState) (postId : PostId) : Prop :=
  ∃ post, s.posts postId = some post ∧ ¬ post.Settled

structure PassesSettled (s t : CrawlState) : Prop where
  checkpoint : ∀ postId, t.channel.lastReadPostId = some postId →
    t.channel.lastReadPostId ≠ s.channel.lastReadPostId →
      ∀ u, u = postId ∨ (Above s.channel.lastReadPostId u ∧ u < postId) → ¬ t.Unsettled u
  cursor : ∀ postId, t.channel.historyCursorPostId = some postId →
    t.channel.historyCursorPostId ≠ s.channel.historyCursorPostId →
      ∀ u, (u = postId ∨ ∃ before, s.channel.historyCursorPostId = some before ∧
        postId < u ∧ u < before) → ¬ t.Unsettled u
  /-- A retry is ahead of the checkpoint, below the history cursor, or left to the next window of an
  initial pass. -/
  retries : ∀ u post, t.posts u = some post → post.RetryPending →
    Above t.channel.lastReadPostId u ∨
      (∃ cursor, t.channel.historyCursorPostId = some cursor ∧ u < cursor) ∨
      t.channel.initialCatchupCompleted = false

section Attempts

def CatchUpPass.hasPage (pass : CatchUpPass) : Bool := !pass.isInitial || pass.page.isSome

def CatchUpPass.pending (pass : CatchUpPass) : List PostId :=
  (pass.page.map CrawlPage.pending).getD []

variable (s : CrawlState) (u : PostId)

def CrawlState.WaitsBelow : Prop :=
  (∃ cursor, s.channel.historyCursorPostId = some cursor ∧ u < cursor) ∧
    ¬ Above s.channel.lastReadPostId u ∧
    ∀ pass, s.pass = some pass → pass.hasPage = true → ¬ Above pass.channel.lastReadPostId u

def CrawlState.StillYields (pass : CatchUpPass) : Prop :=
  u ∈ pass.pending ∨
    (Above s.channel.lastReadPostId u ∧ Above pass.channel.lastReadPostId u ∧
      ∀ m ∈ pass.pending, m < u)

def CrawlState.WaitsAbove : Prop :=
  (s.channel.initialCatchupCompleted = true → Above s.channel.lastReadPostId u) ∧
    ∀ pass, s.pass = some pass → pass.hasPage = true →
      (pass.isInitial = false → Above s.channel.lastReadPostId u) ∧ s.StillYields u pass

def CrawlState.AttemptAhead : Prop := s.WaitsBelow u ∨ s.WaitsAbove u

/-- What a live event has to meet: where it moves the checkpoint it is settled for good and no
unsettled row lies between; where it is not settled some page has still to come to it. -/
def LiveSettles (postId : PostId) (answers : MessageAnswers) : Prop :=
  ∀ listener, s.listener = some listener →
    (answers.fate.movesCheckpoint = true → Above listener.channel.lastReadPostId postId →
      answers.fate.isFinal = true ∧
        ∀ u, s.Unsettled u → u ≠ postId → (Above s.channel.lastReadPostId u ↔ postId < u)) ∧
    (answers.fate.isFinal = false → s.AttemptAhead postId)

def ForwardSettles (answers : MessageAnswers) (postId : PostId) (rest : List PostId) : Prop :=
  answers.fate.isFinal = true ∨
    (Above s.channel.lastReadPostId postId ∧ answers.fate ≠ .paused ∧
      (answers.fate = .unavailable → rest = []))

def WindowSettles (answers : MessageAnswers) (postId : PostId) (attempts : Nat)
    (lastRead : Option PostId) : Prop :=
  (answers.fate = .paused → answers.fate.isDoneAt attempts = true ∨ ¬ Above lastRead postId) ∧
    (answers.fate.isDoneAt attempts = true → ∀ cursor,
      s.channel.historyCursorPostId = some cursor →
        ∀ u, s.Unsettled u → ¬ (postId < u ∧ u < cursor))

def PassSettles (answers : MessageAnswers) (now : Time) : Prop :=
  ∀ pass page postId rest, s.pass = some pass → pass.page = some page →
    page.pending = postId :: rest →
      if pass.isInitial then
        WindowSettles s answers postId (observedAttempts now postId (s.posts postId))
          pass.channel.lastReadPostId
      else ForwardSettles s answers postId rest

/-- What the window of an initial pass has to meet: the pages of older history come to every
unsettled row that it leaves out. -/
def OpenSettles : Prop :=
  ∀ pass, s.pass = some pass → pass.page = none → pass.isInitial = true → ∀ u, s.Unsettled u →
    ((∃ cursor, s.channel.historyCursorPostId = some cursor ∧ u < cursor) ∧
        ¬ Above s.channel.lastReadPostId u ∧ ¬ Above pass.channel.lastReadPostId u) ∨
      u ∈ latestWindow pass.limit s.messages ∨
      (Above s.channel.lastReadPostId u ∧ Above pass.channel.lastReadPostId u ∧
        ∀ m ∈ latestWindow pass.limit s.messages, m < u)

def OlderSettles (answers : MessageAnswers) (now : Time) : Prop :=
  ∀ older postId, s.older = some older → older.pending.head? = some postId →
    answers.fate.isDoneAt (observedAttempts now postId (s.posts postId)) = false →
      s.AttemptAhead postId

def StepSettles : CrawlLabel → Prop
  | .live postId answers _ => LiveSettles s postId answers
  | .passMessage answers now => PassSettles s answers now
  | .openPage => OpenSettles s
  | .olderMessage answers now => OlderSettles s answers now
  | .appear _ | .startListener | .reloadListener | .stopListener | .startPass _ | .endPage _
  | .interruptPass _ | .startOlder _ | .endOlder _ | .interruptOlder => True

end Attempts

structure RetriesKept (s : CrawlState) : Prop where
  shape : CrawlShape s
  ahead : ∀ u, s.Unsettled u → s.AttemptAhead u

section Attempts

variable {s t : CrawlState} {u : PostId}

theorem CrawledPost.RetryPending.not_settled {post : CrawledPost} (h : post.RetryPending) :
    ¬ post.Settled := by
  obtain ⟨hfailed, hretry, hquarantine⟩ := h
  rintro (haccepted | hunsupported | ⟨-, hterminal⟩ | ⟨hquarantined, -⟩)
  · rw [hfailed] at haccepted
    cases haccepted
  · rw [hfailed] at hunsupported
    cases hunsupported
  · rw [hretry] at hterminal
    cases hterminal
  · rw [hquarantine] at hquarantined
    cases hquarantined

theorem RetriesKept.retries (h : RetriesKept s) (u : PostId) (post : CrawledPost)
    (hpost : s.posts u = some post) (hretry : post.RetryPending) :
    Above s.channel.lastReadPostId u ∨
      (∃ cursor, s.channel.historyCursorPostId = some cursor ∧ u < cursor) ∨
      s.channel.initialCatchupCompleted = false := by
  rcases h.ahead u ⟨post, hpost, hretry.not_settled⟩ with ⟨hbelow, -, -⟩ | ⟨habove, -⟩
  · exact .inr (.inl hbelow)
  cases hcompleted : s.channel.initialCatchupCompleted with
  | true => exact .inl (habove hcompleted)
  | false => exact .inr (.inr rfl)

theorem RetriesKept.passesSettled (h : RetriesKept t)
    (hlastRead : t.channel.lastReadPostId = s.channel.lastReadPostId)
    (hhistory : t.channel.historyCursorPostId = s.channel.historyCursorPostId) :
    PassesSettled s t where
  checkpoint _ _ hmoved := absurd hlastRead hmoved
  cursor _ _ hmoved := absurd hhistory hmoved
  retries := h.retries

theorem CrawlState.AttemptAhead.congr (h : s.AttemptAhead u) (hpass : t.pass = s.pass)
    (hlastRead : Above s.channel.lastReadPostId u ↔ Above t.channel.lastReadPostId u)
    (hhistory : ∀ cursor, s.channel.historyCursorPostId = some cursor → u < cursor →
      ∃ cursor, t.channel.historyCursorPostId = some cursor ∧ u < cursor)
    (hcompleted : t.channel.initialCatchupCompleted = s.channel.initialCatchupCompleted) :
    t.AttemptAhead u := by
  rcases h with ⟨⟨cursor, hcursor, hlt⟩, hbehind, hcopies⟩ | ⟨habove, hyields⟩
  · refine .inl ⟨hhistory cursor hcursor hlt, fun hahead => hbehind (hlastRead.mpr hahead), ?_⟩
    rw [hpass]
    exact hcopies
  refine .inr ⟨?_, ?_⟩
  · rw [hcompleted]
    exact fun hdone => hlastRead.mp (habove hdone)
  rw [hpass]
  intro pass hmem hpage
  obtain ⟨hforward, hstill⟩ := hyields pass hmem hpage
  refine ⟨fun hfalse => hlastRead.mp (hforward hfalse), ?_⟩
  exact hstill.imp_right fun ⟨hstored, hrest⟩ => ⟨hlastRead.mp hstored, hrest⟩

theorem unsettled_of_update {postId : PostId} {post : CrawledPost}
    (hposts : t.posts = Function.update s.posts postId (some post)) (hu : t.Unsettled u) :
    (u = postId ∧ ¬ post.Settled) ∨ (u ≠ postId ∧ s.Unsettled u) := by
  obtain ⟨other, hother, hunsettled⟩ := hu
  rw [hposts] at hother
  by_cases heq : u = postId
  · subst heq
    rw [Function.update_self] at hother
    cases hother
    exact .inl ⟨rfl, hunsettled⟩
  · rw [Function.update_of_ne heq] at hother
    exact .inr ⟨heq, other, hother, hunsettled⟩

variable {advanceCheckpoint advanceCursor : Bool} {fate : MessageFate} {rows : MessageRows}
  {result : MessageRows × MessageEnd}

theorem MessageEffect.settled_of_done
    (h : MessageEffect advanceCheckpoint advanceCursor fate rows result)
    (hdone : fate.isFinal = true ∨
      (advanceCursor = true ∧ fate.isDoneAt rows.post.attemptCount = true)) :
    result.1.post.Settled := by
  cases h with
  | settled hfate hid hattempts haccepted hsettled => exact hsettled
  | quarantined hfate hcursor hmany hid hattempts hsettled hquarantined => exact hsettled
  | postponed hfate hcursor hid hattempts hpending =>
    rcases hdone with hfinal | ⟨hmay, -⟩
    · rw [not_isFinal_of_isPostponed hfate] at hfinal
      cases hfinal
    · rw [hcursor] at hmay
      cases hmay
  | stopped hfate hcursor hfew hid hattempts hpending =>
    have hnot : ¬ maxPostAttempts ≤ rows.post.attemptCount := Nat.not_le.mpr hfew
    have hfinal := not_isFinal_of_isPostponed hfate
    rcases hdone with hdone | ⟨-, hdone⟩
    · rw [hfinal] at hdone
      cases hdone
    · simp [MessageFate.isDoneAt, hfinal, hnot] at hdone
  | raised exc hfate hid hattempts hpost =>
    subst hfate
    rcases hdone with hdone | ⟨-, hdone⟩
    · cases hdone
    · cases hdone

theorem MessageEffect.isPostponed_of_next
    (h : MessageEffect advanceCheckpoint false fate rows result) (hnext : result.2 = .next)
    (hopen : fate.isFinal = false) : fate.isPostponed = true := by
  cases h with
  | settled hfate hid hattempts haccepted hsettled =>
    rw [hfate] at hopen
    cases hopen
  | postponed hfate hcursor hid hattempts hpending => exact hfate
  | stopped hfate hcursor hfew hid hattempts hpending => cases hcursor
  | quarantined hfate hcursor hmany hid hattempts hsettled hquarantined => cases hcursor
  | raised exc hfate hid hattempts hpost => cases hnext

theorem eq_paused_of_movesCheckpoint (hmoves : fate.movesCheckpoint = true)
    (hopen : fate.isFinal = false) : fate = .paused := by
  cases fate with
  | paused => rfl
  | accepted | unsupported | malformed => cases hopen
  | unavailable | raised => cases hmoves

theorem eq_unavailable_of_isPostponed (hpostponed : fate.isPostponed = true)
    (hnot : fate ≠ .paused) : fate = .unavailable := by
  cases fate with
  | unavailable => rfl
  | paused => exact absurd rfl hnot
  | accepted | unsupported | malformed | raised => cases hpostponed

theorem isDoneAt_of_isFinal {attempts : Nat} (h : fate.isFinal = true) :
    fate.isDoneAt attempts = true := by
  rw [MessageFate.isDoneAt, h, Bool.true_or]

end Attempts

section Messages

variable {s t : CrawlState} {u postId : PostId} {answers : MessageAnswers} {now : Time}

theorem above_some {u cursor : PostId} : Above (some cursor) u ↔ cursor < u := by
  simp [Above]

section PassMessage

variable {pass : CatchUpPass} {page : CrawlPage} {rest : List PostId} {rows : MessageRows}
  {result : MessageRows × MessageEnd} {moves done : Bool}

theorem hasPage_of_page (hpage : pass.page = some page) : pass.hasPage = true := by
  rw [CatchUpPass.hasPage, hpage, Option.isSome_some, Bool.or_true]

theorem pending_of_page (hpage : pass.page = some page) : pass.pending = page.pending := by
  rw [CatchUpPass.pending, hpage]
  rfl

theorem lt_of_stillYields (hshape : PageShape s pass page) (hpage : pass.page = some page)
    (hpending : page.pending = postId :: rest) (hyields : s.StillYields u pass)
    (hne : u ≠ postId) : postId < u := by
  have hsorted : (postId :: rest).Pairwise (· < ·) := hpending ▸ hshape.sorted
  rw [CrawlState.StillYields, pending_of_page hpage, hpending] at hyields
  rcases hyields with hmem | ⟨-, -, hall⟩
  · rcases List.mem_cons.mp hmem with rfl | hrest
    · exact absurd rfl hne
    · exact (List.pairwise_cons.mp hsorted).1 u hrest
  · exact hall postId List.mem_cons_self

theorem stillYields_next (hpage : pass.page = some page)
    (hpending : page.pending = postId :: rest) (hyields : s.StillYields u pass) (hne : u ≠ postId)
    (hlt : postId < u) (hwritten : MovesExactly moves done postId pass.channel s.channel t.channel)
    (hcopy : MovesExactly moves done postId pass.channel pass.channel result.1.channel)
    {next : CatchUpPass} {page' : CrawlPage} (hchannel : next.channel = result.1.channel)
    (hpage' : next.page = some page') (hrest : page'.pending = rest) : t.StillYields u next := by
  rw [CrawlState.StillYields, pending_of_page hpage, hpending] at hyields
  rw [CrawlState.StillYields, pending_of_page hpage', hrest, hchannel]
  rcases hyields with hmem | ⟨hstored, hahead, hall⟩
  · exact .inl ((List.mem_cons.mp hmem).resolve_left hne)
  · exact .inr ⟨hwritten.ahead hstored hlt, hcopy.ahead hahead hlt,
      fun m hm => hall m (List.mem_cons_of_mem _ hm)⟩

section Pages

variable (h : RetriesKept s) (hpass : s.pass = some pass) (hpage : pass.page = some page)

include h hpass hpage

theorem RetriesKept.not_passed (hpending : page.pending = postId :: rest)
    (hu : s.Unsettled u) (hne : u ≠ postId) (habove : Above s.channel.lastReadPostId u) :
    ¬ u < postId := by
  intro hlt
  rcases h.ahead u hu with ⟨-, hbehind, -⟩ | ⟨-, hyields⟩
  · exact hbehind habove
  have hshape := (h.shape.pass pass hpass).page page hpage
  have hstill := (hyields pass hpass (hasPage_of_page hpage)).2
  exact Nat.lt_asymm hlt (lt_of_stillYields hshape hpage hpending hstill hne)

theorem RetriesKept.forwardMessage (hpending : page.pending = postId :: rest)
    (hforward : pass.isInitial = false)
    (heffect : MessageEffect true false answers.fate rows result)
    (hmoved : PageMove true pass.isInitial postId pass.channel result)
    (hcopy : MovesExactly answers.fate.movesCheckpoint false postId pass.channel pass.channel
      result.1.channel)
    (hsettles : ForwardSettles s answers postId rest) :
    RetriesKept (s.afterPassMessage pass page postId result) ∧
      PassesSettled s (s.afterPassMessage pass page postId result) := by
  have hshape := h.shape.pass pass hpass
  have hpageShape := hshape.page page hpage
  have hwritten : MovesExactly answers.fate.movesCheckpoint false postId pass.channel s.channel
      (s.afterPassMessage pass page postId result).channel :=
    hcopy.writeBack hshape.lastRead_eq hshape.history_eq s.channel
  have hrows : ∀ u, (s.afterPassMessage pass page postId result).Unsettled u →
      (u = postId ∧ ¬ result.1.post.Settled) ∨ (u ≠ postId ∧ s.Unsettled u) :=
    fun u => unsettled_of_update rfl
  have hhistory : (s.afterPassMessage pass page postId result).channel.historyCursorPostId =
      s.channel.historyCursorPostId := by
    rcases hwritten.history with ⟨⟨hmay, -⟩, -⟩ | ⟨-, hsame⟩
    · cases hmay
    · exact hsame
  have hopen : ¬ result.1.post.Settled → answers.fate.isFinal = false := by
    intro hnot
    by_contra hfinal
    exact hnot (heffect.settled_of_done (.inl (by simpa using hfinal)))
  have hstays : answers.fate.isFinal = false → answers.fate.movesCheckpoint = false := by
    intro hnot
    obtain ⟨-, hpaused, -⟩ := hsettles.resolve_left (by simp [hnot])
    by_contra hmoves
    exact hpaused (eq_paused_of_movesCheckpoint (by simpa using hmoves) hnot)
  have hahead : RetriesKept (s.afterPassMessage pass page postId result) := by
    refine ⟨h.shape.passMessage hpass hpage hpending hmoved, ?_⟩
    intro u hu
    rcases hrows u hu with ⟨rfl, hnot⟩ | ⟨hne, hold⟩
    · -- Only the last message of a page may wait for a retry.
      obtain ⟨habove, hpaused, hlast⟩ := hsettles.resolve_left (by simp [hopen hnot])
      have hkept := hstays (hopen hnot)
      have hstored : Above (s.afterPassMessage pass page u result).channel.lastReadPostId u := by
        rcases hwritten.lastRead with ⟨⟨hmay, -⟩, -⟩ | ⟨-, hsame⟩
        · rw [hkept] at hmay
          cases hmay
        · rwa [hsame]
      refine .inr ⟨fun _ => hstored, ?_⟩
      intro next hnext _
      obtain ⟨hgoesOn, hchannel, -, page', hpage', hrest⟩ := pass_afterPassMessage hpending hnext
      have hpostponed := heffect.isPostponed_of_next hgoesOn (hopen hnot)
      have hnil : rest = [] := hlast (eq_unavailable_of_isPostponed hpostponed hpaused)
      refine ⟨fun _ => hstored, .inr ⟨hstored, ?_, ?_⟩⟩
      · rw [hchannel]
        rcases hcopy.lastRead with ⟨⟨hmay, -⟩, -⟩ | ⟨-, hsame⟩
        · rw [hkept] at hmay
          cases hmay
        · rw [hsame]
          exact hpageShape.ahead hforward u (hpending ▸ List.mem_cons_self)
      · intro m hm
        rw [pending_of_page hpage', hrest, hnil] at hm
        cases hm
    · rcases h.ahead u hold with ⟨hbelow, hbehind, hcopies⟩ | ⟨-, hyields⟩
      · have hpassed := hcopies pass hpass (hasPage_of_page hpage)
        refine .inl ⟨hhistory ▸ hbelow, hwritten.behind hpassed hbehind, ?_⟩
        intro next hnext _
        obtain ⟨-, hchannel, -, -⟩ := pass_afterPassMessage hpending hnext
        rw [hchannel]
        exact hcopy.behind hpassed hpassed
      · obtain ⟨hstored, hstill⟩ := hyields pass hpass (hasPage_of_page hpage)
        have hlt := lt_of_stillYields hpageShape hpage hpending hstill hne
        have hwaits := hwritten.ahead (hstored hforward) hlt
        refine .inr ⟨fun _ => hwaits, ?_⟩
        intro next hnext _
        obtain ⟨-, hchannel, -, page', hpage', hrest⟩ := pass_afterPassMessage hpending hnext
        exact ⟨fun _ => hwaits,
          stillYields_next hpage hpending hstill hne hlt hwritten hcopy hchannel hpage' hrest⟩
  refine ⟨hahead, ?_, fun _ _ hmoved => absurd hhistory hmoved, hahead.retries⟩
  intro id hid hchanged u hpassed hu
  rcases hwritten.lastRead with ⟨⟨hmay, -⟩, hnew⟩ | ⟨-, hsame⟩
  · rw [hnew] at hid
    cases hid
    rcases hrows u hu with ⟨-, hnot⟩ | ⟨hne, hold⟩
    · rw [hstays (hopen hnot)] at hmay
      cases hmay
    rcases hpassed with rfl | ⟨habove, hlt⟩
    · exact hne rfl
    · exact h.not_passed hpass hpage hpending hold hne habove hlt
  · exact hchanged hsame

theorem RetriesKept.windowMessage (hpending : page.pending = postId :: rest)
    (hinitial : pass.isInitial = true)
    (heffect : MessageEffect true true answers.fate rows result)
    (hmoved : PageMove true pass.isInitial postId pass.channel result)
    (hcopy : MovesExactly
      (answers.fate.movesCheckpoint || answers.fate.isDoneAt rows.post.attemptCount)
      (answers.fate.isDoneAt rows.post.attemptCount) postId pass.channel pass.channel
      result.1.channel)
    (hsettles : WindowSettles s answers postId rows.post.attemptCount
      pass.channel.lastReadPostId) :
    RetriesKept (s.afterPassMessage pass page postId result) ∧
      PassesSettled s (s.afterPassMessage pass page postId result) := by
  have hshape := h.shape.pass pass hpass
  have hpageShape := hshape.page page hpage
  have hwritten : MovesExactly
      (answers.fate.movesCheckpoint || answers.fate.isDoneAt rows.post.attemptCount)
      (answers.fate.isDoneAt rows.post.attemptCount) postId pass.channel s.channel
      (s.afterPassMessage pass page postId result).channel :=
    hcopy.writeBack hshape.lastRead_eq hshape.history_eq s.channel
  have hrows : ∀ u, (s.afterPassMessage pass page postId result).Unsettled u →
      (u = postId ∧ ¬ result.1.post.Settled) ∨ (u ≠ postId ∧ s.Unsettled u) :=
    fun u => unsettled_of_update rfl
  have hcompleted : (s.afterPassMessage pass page postId result).channel.initialCatchupCompleted =
      false :=
    (hshape.completed_written hinitial hmoved.move.completed).trans (hshape.initial hinitial).1
  have hdone : ¬ result.1.post.Settled →
      answers.fate.isDoneAt rows.post.attemptCount = false := by
    intro hnot
    by_contra hdone
    exact hnot (heffect.settled_of_done (.inr ⟨rfl, by simpa using hdone⟩))
  obtain ⟨hpaused, hbetween⟩ := hsettles
  have hahead : RetriesKept (s.afterPassMessage pass page postId result) := by
    refine ⟨h.shape.passMessage hpass hpage hpending hmoved, ?_⟩
    intro u hu
    cases hends : (s.afterPassMessage pass page postId result).pass with
    | none =>
      refine .inr ⟨fun htrue => ?_, fun next hnext => ?_⟩
      · rw [hcompleted] at htrue
        cases htrue
      · rw [hends] at hnext
        cases hnext
    | some next =>
      obtain ⟨hgoesOn, hchannel, hsame, page', hpage', hrest⟩ :=
        pass_afterPassMessage hpending hends
      have hisDone := heffect.isDoneAt hgoesOn
      obtain ⟨hne, hold⟩ : u ≠ postId ∧ s.Unsettled u := by
        rcases hrows u hu with ⟨-, hnot⟩ | hold
        · rw [hdone hnot] at hisDone
          cases hisDone
        · exact hold
      rcases h.ahead u hold with ⟨⟨cursor, hcursor, hlt⟩, hbehind, hcopies⟩ | ⟨-, hyields⟩
      · have hpassed := hcopies pass hpass (hasPage_of_page hpage)
        refine .inl ⟨?_, hwritten.behind hpassed hbehind, ?_⟩
        · rcases hwritten.history with ⟨-, hnew⟩ | ⟨-, hkept⟩
          · refine ⟨postId, hnew, ?_⟩
            by_contra hge
            have hgt : postId < u := Nat.lt_of_le_of_ne (Nat.not_lt.mp hge) (Ne.symm hne)
            exact hbetween hisDone cursor hcursor u hold ⟨hgt, hlt⟩
          · exact ⟨cursor, hkept.trans hcursor, hlt⟩
        intro other hother _
        cases hends.symm.trans hother
        rw [hchannel]
        exact hcopy.behind hpassed hpassed
      · have hstill := (hyields pass hpass (hasPage_of_page hpage)).2
        have hlt := lt_of_stillYields hpageShape hpage hpending hstill hne
        refine .inr ⟨fun htrue => ?_, ?_⟩
        · rw [hcompleted] at htrue
          cases htrue
        intro other hother _
        cases hends.symm.trans hother
        refine ⟨fun hforward => ?_, ?_⟩
        · rw [hsame, hinitial] at hforward
          cases hforward
        · exact stillYields_next hpage hpending hstill hne hlt hwritten hcopy hchannel hpage'
            hrest
  refine ⟨hahead, ?_, ?_, hahead.retries⟩
  · intro id hid hchanged u hpassed hu
    rcases hwritten.lastRead with ⟨⟨hmay, habove⟩, hnew⟩ | ⟨-, hsame⟩
    · rw [hnew] at hid
      cases hid
      rcases hrows u hu with ⟨-, hnot⟩ | ⟨hne, hold⟩
      · have hopen := hdone hnot
        rw [hopen, Bool.or_false] at hmay
        have hfinal : answers.fate.isFinal = false := by
          by_contra hfinal
          rw [isDoneAt_of_isFinal (by simpa using hfinal)] at hopen
          cases hopen
        rcases hpaused (eq_paused_of_movesCheckpoint hmay hfinal) with htrue | hnever
        · rw [hopen] at htrue
          cases htrue
        · exact hnever habove
      · rcases hpassed with rfl | ⟨hahead', hlt⟩
        · exact hne rfl
        · exact h.not_passed hpass hpage hpending hold hne hahead' hlt
    · exact hchanged hsame
  · intro id hid hchanged u hpassed hu
    rcases hwritten.history with ⟨⟨hisDone, -⟩, hnew⟩ | ⟨-, hsame⟩
    · rw [hnew] at hid
      cases hid
      rcases hrows u hu with ⟨-, hnot⟩ | ⟨hne, hold⟩
      · rw [hdone hnot] at hisDone
        cases hisDone
      rcases hpassed with rfl | ⟨cursor, hcursor, hbounds⟩
      · exact hne rfl
      · exact hbetween hisDone cursor hcursor u hold hbounds
    · exact hchanged hsame

end Pages

end PassMessage

theorem RetriesKept.live (h : RetriesKept s) {listener : LiveListener}
    (hlistener : s.listener = some listener) (hevent : postId ∈ listener.events)
    (hsettles : LiveSettles s postId answers) :
    RetriesKept (s.afterLive listener postId
        (liveMessage answers now postId listener.channel (s.posts postId))) ∧
      PassesSettled s (s.afterLive listener postId
        (liveMessage answers now postId listener.channel (s.posts postId))) := by
  have hshape : CrawlShape (s.afterLive listener postId
      (liveMessage answers now postId listener.channel (s.posts postId))) :=
    h.shape.live hlistener hevent
  have heffect : MessageEffect true false answers.fate
      (observedRows now postId listener.channel (s.posts postId))
      (liveMessage answers now postId listener.channel (s.posts postId)) := liveMessage_effect
  have hmove : ChannelMove true false postId listener.channel
      (liveMessage answers now postId listener.channel (s.posts postId)).1.channel :=
    liveMessage_move
  have hwritten : MovesExactly answers.fate.movesCheckpoint false postId listener.channel
      s.channel (s.afterLive listener postId
        (liveMessage answers now postId listener.channel (s.posts postId))).channel :=
    live_written
  generalize liveMessage answers now postId listener.channel (s.posts postId) = result
    at hshape heffect hmove hwritten ⊢
  have hrows : ∀ u, (s.afterLive listener postId result).Unsettled u →
      (u = postId ∧ ¬ result.1.post.Settled) ∨ (u ≠ postId ∧ s.Unsettled u) :=
    fun u => unsettled_of_update rfl
  have hcompleted : (s.afterLive listener postId result).channel.initialCatchupCompleted =
      s.channel.initialCatchupCompleted := completed_writeBack_of_eq hmove.completed
  have hhistory : (s.afterLive listener postId result).channel.historyCursorPostId =
      s.channel.historyCursorPostId := by
    rcases hwritten.history with ⟨⟨hmay, -⟩, -⟩ | ⟨-, hsame⟩
    · cases hmay
    · exact hsame
  obtain ⟨hmoves, hopen⟩ := hsettles listener hlistener
  rcases hwritten.lastRead with ⟨⟨hmay, habove⟩, hnew⟩ | ⟨-, hsame⟩
  · obtain ⟨hfinal, hbetween⟩ := hmoves hmay habove
    have hsettled := heffect.settled_of_done (.inl hfinal)
    have hahead : RetriesKept (s.afterLive listener postId result) := by
      refine ⟨hshape, ?_⟩
      intro u hu
      rcases hrows u hu with ⟨-, hnot⟩ | ⟨hne, hold⟩
      · exact absurd hsettled hnot
      refine (h.ahead u hold).congr rfl ?_ ?_ hcompleted
      · rw [hnew, above_some]
        exact hbetween u hold hne
      · intro cursor hcursor hlt
        exact ⟨cursor, hhistory.trans hcursor, hlt⟩
    refine ⟨hahead, ?_, fun _ _ hmoved => absurd hhistory hmoved, hahead.retries⟩
    intro id hid _ u hpassed hu
    rw [hnew] at hid
    cases hid
    rcases hrows u hu with ⟨-, hnot⟩ | ⟨hne, hold⟩
    · exact hnot hsettled
    rcases hpassed with rfl | ⟨hahead, hlt⟩
    · exact hne rfl
    · exact Nat.lt_asymm hlt ((hbetween u hold hne).mp hahead)
  · have hahead : RetriesKept (s.afterLive listener postId result) := by
      refine ⟨hshape, ?_⟩
      intro u hu
      have hbefore : s.AttemptAhead u := by
        rcases hrows u hu with ⟨rfl, hnot⟩ | ⟨-, hold⟩
        · refine hopen ?_
          by_contra hfinal
          exact hnot (heffect.settled_of_done (.inl (by simpa using hfinal)))
        · exact h.ahead u hold
      refine hbefore.congr rfl ?_ ?_ hcompleted
      · rw [hsame]
      · intro cursor hcursor hlt
        exact ⟨cursor, hhistory.trans hcursor, hlt⟩
    exact ⟨hahead, hahead.passesSettled hsame hhistory⟩

theorem RetriesKept.olderMessage (h : RetriesKept s) {older : OlderPass} {rest : List PostId}
    {rows : MessageRows} {result : MessageRows × MessageEnd} (holder : s.older = some older)
    (hpending : older.pending = postId :: rest)
    (heffect : MessageEffect false true answers.fate rows result)
    (hmoved : PageMove false true postId older.channel result)
    (hcopy : MovesExactly false (answers.fate.isDoneAt rows.post.attemptCount) postId
      older.channel older.channel result.1.channel)
    (hsettles : answers.fate.isDoneAt rows.post.attemptCount = false → s.AttemptAhead postId) :
    RetriesKept (s.afterOlderMessage older postId result) ∧
      PassesSettled s (s.afterOlderMessage older postId result) := by
  have hshape := h.shape.older older holder
  have hwritten : MovesExactly false (answers.fate.isDoneAt rows.post.attemptCount) postId
      older.channel s.channel (s.afterOlderMessage older postId result).channel :=
    hcopy.writeBack rfl rfl s.channel
  have hrows : ∀ u, (s.afterOlderMessage older postId result).Unsettled u →
      (u = postId ∧ ¬ result.1.post.Settled) ∨ (u ≠ postId ∧ s.Unsettled u) :=
    fun u => unsettled_of_update rfl
  have hcompleted : (s.afterOlderMessage older postId result).channel.initialCatchupCompleted =
      s.channel.initialCatchupCompleted := completed_writeBack_of_eq hmoved.move.completed
  have hlastRead : (s.afterOlderMessage older postId result).channel.lastReadPostId =
      s.channel.lastReadPostId := by
    rcases hwritten.lastRead with ⟨⟨hmay, -⟩, -⟩ | ⟨-, hsame⟩
    · cases hmay
    · exact hsame
  have hdone : ¬ result.1.post.Settled →
      answers.fate.isDoneAt rows.post.attemptCount = false := by
    intro hnot
    by_contra hdone
    exact hnot (heffect.settled_of_done (.inr ⟨rfl, by simpa using hdone⟩))
  have hnone : ∀ u cursor, s.channel.historyCursorPostId = some cursor → s.Unsettled u →
      u ≠ postId → u < cursor → u < postId := by
    rintro u cursor hcursor ⟨post, hpost, -⟩ hne hlt
    obtain ⟨boundary, hboundary, -, hcomplete⟩ := hshape.below
    cases hcursor.symm.trans hboundary
    by_contra hge
    have hgt : postId < u := Nat.lt_of_le_of_ne (Nat.not_lt.mp hge) (Ne.symm hne)
    have hexists := h.shape.observed_exists u (by simp [CrawlState.Observed, hpost])
    have hwaiting := hcomplete u hexists hlt ⟨postId, hpending ▸ List.mem_cons_self, hgt⟩
    have hsorted : (postId :: rest).Pairwise (· > ·) := hpending ▸ hshape.sorted
    rw [hpending] at hwaiting
    exact Nat.lt_asymm hgt ((List.pairwise_cons.mp hsorted).1 u
      ((List.mem_cons.mp hwaiting).resolve_left hne))
  have hahead : RetriesKept (s.afterOlderMessage older postId result) := by
    refine ⟨h.shape.olderMessage holder hpending hmoved, ?_⟩
    intro u hu
    rcases hrows u hu with ⟨rfl, hnot⟩ | ⟨hne, hold⟩
    · refine (hsettles (hdone hnot)).congr rfl (by rw [hlastRead]) ?_ hcompleted
      intro cursor hcursor hlt
      rcases hwritten.history with ⟨⟨hisDone, -⟩, -⟩ | ⟨-, hkept⟩
      · rw [hdone hnot] at hisDone
        cases hisDone
      · exact ⟨cursor, hkept.trans hcursor, hlt⟩
    refine (h.ahead u hold).congr rfl (by rw [hlastRead]) ?_ hcompleted
    intro cursor hcursor hlt
    rcases hwritten.history with ⟨-, hnew⟩ | ⟨-, hkept⟩
    · exact ⟨postId, hnew, hnone u cursor hcursor hold hne hlt⟩
    · exact ⟨cursor, hkept.trans hcursor, hlt⟩
  refine ⟨hahead, fun _ _ hchanged => absurd hlastRead hchanged, ?_, hahead.retries⟩
  intro id hid hchanged u hpassed hu
  rcases hwritten.history with ⟨⟨hisDone, -⟩, hnew⟩ | ⟨-, hsame⟩
  · rw [hnew] at hid
    cases hid
    rcases hrows u hu with ⟨-, hnot⟩ | ⟨hne, hold⟩
    · rw [hdone hnot] at hisDone
      cases hisDone
    rcases hpassed with rfl | ⟨cursor, hcursor, hgt, hlt⟩
    · exact hne rfl
    · exact Nat.lt_asymm hgt (hnone u cursor hcursor hold hne hlt)
  · exact hchanged hsame

end Messages

section Passes

variable {s t : CrawlState}

theorem RetriesKept.frame (h : RetriesKept s) (hshape : CrawlShape t) (hposts : t.posts = s.posts)
    (hlastRead : t.channel.lastReadPostId = s.channel.lastReadPostId)
    (hhistory : t.channel.historyCursorPostId = s.channel.historyCursorPostId)
    (hahead : ∀ u, s.Unsettled u → s.AttemptAhead u → t.AttemptAhead u) :
    RetriesKept t ∧ PassesSettled s t := by
  have hkept : RetriesKept t := by
    refine ⟨hshape, ?_⟩
    rintro u ⟨post, hpost, hunsettled⟩
    have hold : s.Unsettled u := ⟨post, hposts ▸ hpost, hunsettled⟩
    exact hahead u hold (h.ahead u hold)
  exact ⟨hkept, hkept.passesSettled hlastRead hhistory⟩

theorem RetriesKept.keep (h : RetriesKept s) (hshape : CrawlShape t) (hposts : t.posts = s.posts)
    (hpass : t.pass = s.pass) (hlastRead : t.channel.lastReadPostId = s.channel.lastReadPostId)
    (hhistory : t.channel.historyCursorPostId = s.channel.historyCursorPostId)
    (hcompleted : t.channel.initialCatchupCompleted = s.channel.initialCatchupCompleted) :
    RetriesKept t ∧ PassesSettled s t := by
  refine h.frame hshape hposts hlastRead hhistory fun u _ hahead => ?_
  refine hahead.congr hpass (by rw [hlastRead]) ?_ hcompleted
  intro cursor hcursor hlt
  exact ⟨cursor, hhistory.trans hcursor, hlt⟩

theorem RetriesKept.startPass (h : RetriesKept s) (limit : Nat) :
    RetriesKept { s with
        pass := some {
          loaded := s.channel
          channel := s.channel
          limit := limit
          isInitial := !s.channel.initialCatchupCompleted } } ∧
      PassesSettled s { s with
        pass := some {
          loaded := s.channel
          channel := s.channel
          limit := limit
          isInitial := !s.channel.initialCatchupCompleted } } := by
  refine h.frame (h.shape.startPass limit) rfl rfl rfl ?_
  rintro u - (⟨hbelow, hbehind, -⟩ | ⟨habove, -⟩)
  · refine .inl ⟨hbelow, hbehind, ?_⟩
    intro next hnext _
    cases hnext
    exact hbehind
  refine .inr ⟨habove, ?_⟩
  intro next hnext hpage
  cases hnext
  have hahead := habove (by simpa [CatchUpPass.hasPage] using hpage)
  exact ⟨fun _ => hahead, .inr ⟨hahead, hahead, fun m hm => nomatch hm⟩⟩

theorem RetriesKept.openPage (h : RetriesKept s) (hstep : s.openPage = some t)
    (hsettles : OpenSettles s) : RetriesKept t ∧ PassesSettled s t := by
  have hshape := h.shape.openPage hstep
  obtain ⟨pass, hpass, hnone, rfl⟩ := openPage_eq_some hstep
  refine h.frame hshape rfl rfl rfl ?_
  intro u hu hahead
  cases hinitial : pass.isInitial with
  | true =>
    have hnot : s.channel.initialCatchupCompleted ≠ true := by
      rw [((h.shape.pass pass hpass).initial hinitial).1]
      exact Bool.false_ne_true
    rcases hsettles pass hpass hnone hinitial u hu with ⟨hbelow, hbehind, hpassed⟩ | hwindow
    · refine .inl ⟨hbelow, hbehind, ?_⟩
      intro next hnext _
      cases hnext
      exact hpassed
    refine .inr ⟨fun htrue => absurd htrue hnot, ?_⟩
    intro next hnext _
    cases hnext
    exact ⟨fun hforward => (nomatch hforward), hwindow⟩
  | false =>
    have hhas : pass.hasPage = true := by simp [CatchUpPass.hasPage, hinitial]
    rcases hahead with ⟨hbelow, hbehind, hcopies⟩ | ⟨habove, hyields⟩
    · refine .inl ⟨hbelow, hbehind, ?_⟩
      intro next hnext _
      cases hnext
      exact hcopies pass hpass hhas
    obtain ⟨hforward, hstill⟩ := hyields pass hpass hhas
    have hstored := hforward hinitial
    refine .inr ⟨habove, ?_⟩
    intro next hnext _
    cases hnext
    refine ⟨fun _ => hstored, ?_⟩
    have hcopy : Above pass.channel.lastReadPostId u := by
      rcases hstill with hmem | ⟨-, hcopy, -⟩
      · rw [CatchUpPass.pending, hnone] at hmem
        cases hmem
      · exact hcopy
    obtain ⟨post, hpost, -⟩ := hu
    have hexists := h.shape.observed_exists u (by simp [CrawlState.Observed, hpost])
    by_cases hwindow : u ∈ forwardWindow pass.limit pass.channel.lastReadPostId s.messages
    · exact .inl hwindow
    refine .inr ⟨hstored, hcopy, ?_⟩
    intro m hm
    by_contra hge
    rcases Nat.lt_or_eq_of_le (Nat.not_lt.mp hge) with hlt | rfl
    · exact hwindow (forwardWindow_complete h.shape.sorted hexists hcopy ⟨m, hm, hlt⟩)
    · exact hwindow hm

theorem CrawlState.AttemptAhead.turn {u : PostId} {pass next : CatchUpPass}
    (h : s.AttemptAhead u) (hpass : s.pass = some pass) (hhas : pass.hasPage = true)
    (hempty : pass.pending = []) (hchannel : t.channel = s.channel) (hnext : t.pass = some next)
    (hnone : next.pending = [])
    (hlastRead : next.channel.lastReadPostId = pass.channel.lastReadPostId) :
    t.AttemptAhead u := by
  rcases h with ⟨hbelow, hbehind, hcopies⟩ | ⟨habove, hyields⟩
  · refine .inl ⟨hchannel ▸ hbelow, hchannel ▸ hbehind, ?_⟩
    intro other hother _
    cases hnext.symm.trans hother
    rw [hlastRead]
    exact hcopies pass hpass hhas
  refine .inr ⟨hchannel ▸ habove, ?_⟩
  intro other hother _
  cases hnext.symm.trans hother
  rcases (hyields pass hpass hhas).2 with hmem | ⟨hstored, hcopy, -⟩
  · rw [hempty] at hmem
    cases hmem
  · rw [CrawlState.StillYields, hchannel, hlastRead, hnone]
    exact ⟨fun _ => hstored, .inr ⟨hstored, hcopy, fun m hm => nomatch hm⟩⟩

theorem CrawlState.AttemptAhead.close {u : PostId} {pass : CatchUpPass} (h : s.AttemptAhead u)
    (hpass : s.pass = some pass) (hnone : t.pass = none)
    (hlastRead : t.channel.lastReadPostId = s.channel.lastReadPostId)
    (hhistory : t.channel.historyCursorPostId = s.channel.historyCursorPostId)
    (hcompleted : pass.isInitial = true →
      t.channel.initialCatchupCompleted = s.channel.initialCatchupCompleted) :
    t.AttemptAhead u := by
  rcases h with ⟨hbelow, hbehind, -⟩ | ⟨habove, hyields⟩
  · refine .inl ⟨hhistory ▸ hbelow, hlastRead ▸ hbehind, ?_⟩
    intro next hnext
    cases hnone.symm.trans hnext
  refine .inr ⟨?_, ?_⟩
  · intro hdone
    rw [hlastRead]
    cases hinitial : pass.isInitial with
    | true => exact habove ((hcompleted hinitial).symm.trans hdone)
    | false =>
      have hhas : pass.hasPage = true := by simp [CatchUpPass.hasPage, hinitial]
      exact (hyields pass hpass hhas).1 hinitial
  · intro next hnext
    cases hnone.symm.trans hnext

theorem RetriesKept.endPage (h : RetriesKept s) {now : Time} (hstep : s.endPage now = some t) :
    RetriesKept t ∧ PassesSettled s t := by
  have hshape := h.shape.endPage hstep
  obtain ⟨pass, page, hpass, hpage, hpending, hend⟩ := endPage_eq_some hstep
  have hpassShape := h.shape.pass pass hpass
  have hempty : pass.pending = [] := (pending_of_page hpage).trans hpending
  have hhas := hasPage_of_page hpage
  cases hend with
  | completed hinitial =>
    exact h.frame hshape rfl rfl rfl fun u _ hahead =>
      hahead.turn hpass hhas hempty rfl rfl rfl rfl
  | finished hforward =>
    have hlastRead : _ = s.channel.lastReadPostId :=
      lastRead_writeBack_of_eq hpassShape.lastRead_eq.symm
    have hhistory : _ = s.channel.historyCursorPostId :=
      history_writeBack_of_eq hpassShape.history_eq.symm
    refine h.frame hshape rfl hlastRead hhistory fun u _ hahead => ?_
    refine hahead.close hpass rfl hlastRead hhistory fun hinitial => ?_
    exact absurd (hinitial.symm.trans hforward) Bool.true_eq_false.mp
  | continued hforward =>
    exact h.frame hshape rfl rfl rfl fun u _ hahead =>
      hahead.turn hpass hhas hempty rfl rfl rfl rfl

theorem RetriesKept.interruptPass (h : RetriesKept s) {commits : Bool}
    (hstep : s.interruptPass commits = some t) : RetriesKept t ∧ PassesSettled s t := by
  have hshape := h.shape.interruptPass hstep
  obtain ⟨pass, hpass, rfl⟩ := interruptPass_eq_some hstep
  have hpassShape := h.shape.pass pass hpass
  cases commits with
  | true =>
    have hlastRead : _ = s.channel.lastReadPostId :=
      lastRead_writeBack_of_eq hpassShape.lastRead_eq.symm
    have hhistory : _ = s.channel.historyCursorPostId :=
      history_writeBack_of_eq hpassShape.history_eq.symm
    exact h.frame hshape rfl hlastRead hhistory fun u _ hahead =>
      hahead.close hpass rfl hlastRead hhistory fun hinitial =>
        hpassShape.completed_written hinitial rfl
  | false =>
    exact h.frame hshape rfl rfl rfl fun u _ hahead => hahead.close hpass rfl rfl rfl fun _ => rfl

theorem RetriesKept.passMessage (h : RetriesKept s) {pass : CatchUpPass} {page : CrawlPage}
    {postId : PostId} {rest : List PostId} {answers : MessageAnswers} {now : Time}
    (hpass : s.pass = some pass) (hpage : pass.page = some page)
    (hpending : page.pending = postId :: rest) (hsettles : PassSettles s answers now) :
    RetriesKept (s.afterPassMessage pass page postId
        (catchUpMessage true pass.isInitial answers now postId pass.channel (s.posts postId))) ∧
      PassesSettled s (s.afterPassMessage pass page postId
        (catchUpMessage true pass.isInitial answers now postId pass.channel
          (s.posts postId))) := by
  have hmessage := hsettles pass page postId rest hpass hpage hpending
  have heffect : MessageEffect true pass.isInitial answers.fate
      (observedRows now postId pass.channel (s.posts postId))
      (catchUpMessage true pass.isInitial answers now postId pass.channel (s.posts postId)) :=
    catchUpMessage_effect
  have hmoved : PageMove true pass.isInitial postId pass.channel
      (catchUpMessage true pass.isInitial answers now postId pass.channel (s.posts postId)) :=
    catchUpMessage_pageMove
  have hcopy : MovesExactly _ _ postId pass.channel pass.channel
      (catchUpMessage true pass.isInitial answers now postId pass.channel
        (s.posts postId)).1.channel := catchUpMessage_movesExactly
  generalize catchUpMessage true pass.isInitial answers now postId pass.channel
    (s.posts postId) = result at heffect hmoved hcopy ⊢
  cases hinitial : pass.isInitial with
  | true =>
    rw [hinitial, if_pos rfl] at hmessage
    rw [hinitial] at heffect
    simp only [hinitial, Bool.true_and, Bool.and_true] at hcopy
    exact h.windowMessage hpass hpage hpending hinitial heffect hmoved hcopy hmessage
  | false =>
    rw [hinitial, if_neg Bool.false_ne_true] at hmessage
    rw [hinitial] at heffect
    simp only [hinitial, Bool.false_and, Bool.or_false, Bool.and_true] at hcopy
    exact h.forwardMessage hpass hpage hpending hinitial heffect hmoved hcopy hmessage

theorem RetriesKept.step (h : RetriesKept s) {label : CrawlLabel}
    (hstep : crawlStep s label = some t) (hsettles : StepSettles s label) :
    RetriesKept t ∧ PassesSettled s t := by
  have hshape := h.shape.step hstep
  cases label with
  | appear postId =>
    obtain ⟨-, heq⟩ := Option.ite_none_right_eq_some.mp hstep
    cases heq
    exact h.keep hshape rfl rfl rfl rfl rfl
  | startListener | reloadListener | stopListener | interruptOlder =>
    cases hstep
    exact h.keep hshape rfl rfl rfl rfl rfl
  | live postId answers now =>
    obtain ⟨listener, hlistener, hevent, rfl⟩ := live_eq_some hstep
    exact h.live hlistener hevent hsettles
  | startPass limit =>
    obtain ⟨-, heq⟩ := Option.ite_none_right_eq_some.mp hstep
    cases heq
    exact h.startPass limit
  | openPage => exact h.openPage hstep hsettles
  | passMessage answers now =>
    obtain ⟨pass, page, postId, rest, hpass, hpage, hpending, rfl⟩ := passMessage_eq_some hstep
    exact h.passMessage hpass hpage hpending hsettles
  | endPage now => exact h.endPage hstep
  | interruptPass commits => exact h.interruptPass hstep
  | startOlder limit =>
    obtain ⟨-, -, boundary, -, rfl⟩ := startOlder_eq_some hstep
    exact h.keep hshape rfl rfl rfl rfl rfl
  | olderMessage answers now =>
    obtain ⟨older, postId, rest, holder, hpending, rfl⟩ := olderMessage_eq_some hstep
    exact h.olderMessage holder hpending catchUpMessage_effect catchUpMessage_pageMove
      olderMessage_movesExactly
      (hsettles older postId holder (hpending ▸ rfl))
  | endOlder now =>
    obtain ⟨older, holder, rfl⟩ := endOlder_eq_some hstep
    exact h.keep hshape rfl rfl (lastRead_writeBack_of_eq rfl) (history_writeBack_of_eq rfl)
      (completed_writeBack_of_eq rfl)

end Passes

theorem RetriesKept.fresh {messages : List PostId} (hsorted : messages.Pairwise (· < ·)) :
    RetriesKept { messages := messages } where
  shape := .fresh hsorted
  ahead := by
    rintro u ⟨post, hpost, -⟩
    cases hpost

/-- While the conditions are met, the cursors pass only settled posts and every retry has an
attempt ahead. -/
theorem crawl_passesSettled {messages : List PostId} (hsorted : messages.Pairwise (· < ·))
    (labels : List CrawlLabel)
    (hsettles : ∀ x ∈ transitions crawlStep { messages := messages } labels,
      StepSettles x.before x.label) :
    ∀ x ∈ transitions crawlStep { messages := messages } labels,
      PassesSettled x.before x.after := by
  intro x hx
  have hbefore : RetriesKept x.before :=
    invariant_before (P := RetriesKept) (.fresh hsorted)
      (fun y hy hkept => (hkept.step (step_of_mem_transitions hy) (hsettles y hy)).1) hx
  exact (hbefore.step (step_of_mem_transitions hx) (hsettles x hx)).2

def firstWindow : List CrawlLabel := [.startPass 10, .openPage, .passMessage {} 0]

theorem crawl_passesSettled_firstWindow :
    ([1, 2] : List PostId).Pairwise (· < ·) ∧
      ∀ x ∈ transitions crawlStep { messages := [1, 2] } firstWindow,
        PassesSettled x.before x.after := by
  refine ⟨by decide, crawl_passesSettled (by decide) firstWindow ?_⟩
  intro x hx
  have hsteps : transitions crawlStep { messages := [1, 2] } firstWindow =
      [⟨{ messages := [1, 2] }, .startPass 10,
          final crawlStep { messages := [1, 2] } [.startPass 10]⟩,
        ⟨final crawlStep { messages := [1, 2] } [.startPass 10], .openPage,
          final crawlStep { messages := [1, 2] } [.startPass 10, .openPage]⟩,
        ⟨final crawlStep { messages := [1, 2] } [.startPass 10, .openPage], .passMessage {} 0,
          final crawlStep { messages := [1, 2] } firstWindow⟩] := rfl
  rw [hsteps] at hx
  rcases List.mem_cons.mp hx with rfl | hx
  · trivial
  rcases List.mem_cons.mp hx with rfl | hx
  · rintro pass - - - u ⟨post, hpost, -⟩
    cases hpost
  cases List.mem_singleton.mp hx
  intro pass page postId rest hpass hpage hpending
  cases hpass
  cases hpage
  cases hpending
  exact ⟨fun hpaused => (nomatch hpaused), fun _ cursor hcursor => nomatch hcursor⟩

def unavailableBeforeAccepted : List CrawlLabel :=
  [.startPass 10, .openPage, .passMessage {} 0, .endPage 0, .openPage, .endPage 0, .appear 2,
    .appear 3, .startPass 10, .openPage,
    .passMessage { download := some (.providerUnavailable "no media") } 1, .passMessage {} 1]

/-- The checkpoint comes to 3, and 2 waits for a retry that no page makes. -/
theorem retry_left_behind :
    ¬ ∀ messages : List PostId, messages.Pairwise (· < ·) → ∀ labels : List CrawlLabel,
      ∀ x ∈ transitions crawlStep { messages := messages } labels,
        PassesSettled x.before x.after := by
  intro h
  have hrun := h [1] (by decide) unavailableBeforeAccepted
  have hretries : ∀ u post,
      (final crawlStep { messages := [1] } unavailableBeforeAccepted).posts u = some post →
        post.RetryPending → _ :=
    invariant_final (P := fun s => ∀ u post, s.posts u = some post → post.RetryPending →
      Above s.channel.lastReadPostId u ∨
        (∃ cursor, s.channel.historyCursorPostId = some cursor ∧ u < cursor) ∨
        s.channel.initialCatchupCompleted = false)
      (by intro u post hpost; cases hpost) fun x hx _ => (hrun x hx).retries
  rcases hretries 2 _ rfl (by decide) with habove | ⟨cursor, hcursor, hlt⟩ | hopen
  · exact absurd (habove 3 rfl) (by decide)
  · cases hcursor
    exact absurd hlt (by decide)
  · cases hopen

end MemeExpert.Crawlers
