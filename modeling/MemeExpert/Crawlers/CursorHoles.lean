import MemeExpert.Crawlers.CrawlShape

/-! Forward pages start at the checkpoint and pages of older history at the history cursor,
so they leave no message between the cursors out. -/

namespace MemeExpert.Crawlers

open Runs

def CrawlState.NoHole (s : CrawlState) : Prop :=
  ∀ lowest highest, s.channel.historyCursorPostId = some lowest →
    s.channel.lastReadPostId = some highest →
      ∀ m ∈ s.messages, lowest ≤ m → m ≤ highest → s.Observed m

def CrawlState.StartsAt (s : CrawlState) (lastRead : Option PostId) (postId : PostId) : Prop :=
  ∀ lowest, s.channel.historyCursorPostId = some lowest →
    ∀ m ∈ s.messages, lowest ≤ m → Above lastRead m → m < postId → s.Observed m

def CrawlState.ReachesCheckpoint (s : CrawlState) (postId : PostId) : Prop :=
  ∀ highest, s.channel.lastReadPostId = some highest →
    ∀ m ∈ s.messages, postId < m → m ≤ highest → s.Observed m

def LiveInOrder (s : CrawlState) (postId : PostId) (answers : MessageAnswers) : Prop :=
  ∀ listener, s.listener = some listener → answers.fate.movesCheckpoint = true →
    Above listener.channel.lastReadPostId postId → s.StartsAt s.channel.lastReadPostId postId

/-- What a message of an initial window has to meet that moves the checkpoint, or the history
cursor alone. -/
def WindowInOrder (s : CrawlState) (answers : MessageAnswers) (now : Time) : Prop :=
  ∀ pass page postId, s.pass = some pass → pass.page = some page →
    page.pending.head? = some postId → pass.isInitial = true →
    ((answers.fate.movesCheckpoint ||
          answers.fate.isDoneAt (observedAttempts now postId (s.posts postId))) = true →
        Above pass.channel.lastReadPostId postId →
        s.StartsAt pass.channel.lastReadPostId postId) ∧
      (answers.fate.isDoneAt (observedAttempts now postId (s.posts postId)) = true →
        ¬ Above pass.channel.lastReadPostId postId →
        Below s.channel.historyCursorPostId postId → s.ReachesCheckpoint postId)

def StepInOrder (s : CrawlState) : CrawlLabel → Prop
  | .live postId answers _ => LiveInOrder s postId answers
  | .passMessage answers now => WindowInOrder s answers now
  | .appear _ | .startListener | .reloadListener | .stopListener | .startPass _ | .openPage
  | .endPage _ | .interruptPass _ | .startOlder _ | .olderMessage _ _ | .endOlder _
  | .interruptOlder => True

def CrawlState.Covered (s : CrawlState) (lastRead : Option PostId) (waiting : List PostId) : Prop :=
  ∀ lowest highest, s.channel.historyCursorPostId = some lowest → lastRead = some highest →
    ∀ m ∈ s.messages, lowest ≤ m → m ≤ highest → s.Observed m ∨ m ∈ waiting

section Ranges

variable {s t : CrawlState} {lastRead : Option PostId} {waiting : List PostId} {postId : PostId}

theorem noHole_iff_covered : s.NoHole ↔ s.Covered s.channel.lastReadPostId [] := by
  simp [CrawlState.NoHole, CrawlState.Covered]

theorem CrawlState.Covered.frame (h : s.Covered lastRead waiting)
    (hmessages : t.messages = s.messages) (hobserved : ∀ m, s.Observed m → t.Observed m)
    (hhistory : t.channel.historyCursorPostId = s.channel.historyCursorPostId) :
    t.Covered lastRead waiting := by
  intro lowest highest hlowest hhighest m hm hle hge
  rw [hhistory] at hlowest
  rw [hmessages] at hm
  exact (h lowest highest hlowest hhighest m hm hle hge).imp_left (hobserved m)

theorem CrawlState.Covered.mono (h : s.Covered lastRead []) : s.Covered lastRead waiting := by
  intro lowest highest hlowest hhighest m hm hle hge
  rcases h lowest highest hlowest hhighest m hm hle hge with hobserved | hnone
  · exact .inl hobserved
  · cases hnone

theorem CrawlState.Covered.appear (h : s.Covered lastRead waiting)
    (hnew : ∀ m ∈ s.messages, m < postId) (hexists : ∀ id, lastRead = some id → id ∈ s.messages) :
    (s.appear postId).Covered lastRead waiting := by
  intro lowest highest hlowest hhighest m hm hle hge
  rcases List.mem_append.mp hm with hold | hadded
  · exact h lowest highest hlowest hhighest m hold hle hge
  · rw [List.mem_singleton.mp hadded] at hge
    exact absurd (hnew highest (hexists highest hhighest)) (Nat.not_lt.mpr hge)

theorem CrawlState.Covered.older (h : s.Covered lastRead waiting) {older : OlderPass}
    {rest : List PostId} (hshape : OlderShape s older) (hpending : older.pending = postId :: rest)
    (hc : Committed s t false true postId) : t.Covered lastRead waiting := by
  rcases hc.history with hsame | ⟨-, hmoved⟩
  · exact h.frame hc.messages hc.observed_mono hsame
  intro lowest highest hlowest hhighest m hm hle hge
  rw [hmoved] at hlowest
  cases hlowest
  rw [hc.messages] at hm
  rcases Nat.lt_or_eq_of_le hle with hlt | rfl
  · obtain ⟨boundary, hboundary, -, hcomplete⟩ := hshape.below
    by_cases hbelow : m < boundary
    · have hwaiting := hcomplete m hm hbelow ⟨postId, hpending ▸ List.mem_cons_self, hlt⟩
      have hsorted : (postId :: rest).Pairwise (· > ·) := hpending ▸ hshape.sorted
      rw [hpending] at hwaiting
      rcases List.mem_cons.mp hwaiting with rfl | hrest
      · exact absurd hlt (Nat.lt_irrefl _)
      · exact absurd ((List.pairwise_cons.mp hsorted).1 m hrest) (Nat.lt_asymm hlt)
    · exact (h boundary highest hboundary hhighest m hm (Nat.not_lt.mp hbelow) hge).imp_left
        (hc.observed_mono m)
  · exact .inl ((hc.observed _).mpr (.inl rfl))

theorem CrawlState.Covered.extend (h : s.Covered lastRead waiting)
    (hwaiting : ∀ m ∈ waiting, postId ≤ m) (hstarts : s.StartsAt lastRead postId)
    (hmessages : t.messages = s.messages) (hobserved : ∀ m, t.Observed m ↔ m = postId ∨ s.Observed m)
    (hhistory : t.channel.historyCursorPostId = s.channel.historyCursorPostId) :
    t.Covered (some postId) [] := by
  intro lowest highest hlowest hhighest m hm hle hge
  cases hhighest
  rw [hhistory] at hlowest
  rw [hmessages] at hm
  refine .inl ((hobserved m).mpr ?_)
  rcases Nat.lt_or_eq_of_le hge with hlt | heq
  · refine .inr ?_
    by_cases habove : Above lastRead m
    · exact hstarts lowest hlowest m hm hle habove hlt
    obtain ⟨id, hid⟩ : ∃ id, lastRead = some id ∧ ¬ id < m := by
      simpa [Above] using habove
    rcases h lowest id hlowest hid.1 m hm hle (Nat.not_lt.mp hid.2) with hrow | hmem
    · exact hrow
    · exact absurd hlt (Nat.not_lt.mpr (hwaiting m hmem))
  · exact .inl heq

theorem startsAt_of_covered (h : t.Covered (some postId) []) (hmessages : t.messages = s.messages)
    (hobserved : ∀ m, t.Observed m ↔ m = postId ∨ s.Observed m)
    (hhistory : t.channel.historyCursorPostId = s.channel.historyCursorPostId) :
    s.StartsAt lastRead postId := by
  intro lowest hlowest m hm hle _ hlt
  rw [← hmessages] at hm
  rcases h lowest postId (hhistory.trans hlowest) rfl m hm hle (Nat.le_of_lt hlt) with hrow | hnone
  · rcases (hobserved m).mp hrow with rfl | hold
    · exact absurd hlt (Nat.lt_irrefl _)
    · exact hold
  · cases hnone

/-- A session that commits a message leaves no hole exactly where the message starts at the
checkpoint, or reaches it when the history cursor alone moves. -/
theorem noHole_iff_of_written {copy : CrawledChannel} {moves done : Bool} (hstored : s.NoHole)
    (hcovered : s.Covered lastRead waiting) (hwaiting : ∀ m ∈ waiting, postId ≤ m)
    (hmessages : t.messages = s.messages)
    (hobserved : ∀ m, t.Observed m ↔ m = postId ∨ s.Observed m)
    (hwritten : MovesExactly moves done postId copy s.channel t.channel)
    (hmoves : done = true → moves = true)
    (hcursor : done = true → copy.historyCursorPostId = s.channel.historyCursorPostId) :
    t.NoHole ↔
      (moves = true → Above copy.lastReadPostId postId → s.StartsAt lastRead postId) ∧
        (done = true → ¬ Above copy.lastReadPostId postId →
          Below s.channel.historyCursorPostId postId → s.ReachesCheckpoint postId) := by
  rcases hwritten.lastRead with ⟨⟨hmay, habove⟩, hnew⟩ | ⟨hnot, hsame⟩
  · rcases hwritten.history with ⟨⟨hdone, hbelow⟩, hlow⟩ | ⟨-, hhistory⟩
    · constructor
      · intro _
        refine ⟨?_, fun _ hnever => absurd habove hnever⟩
        intro _ _ lowest hlowest m _ hle _ hlt
        rw [← hcursor hdone] at hlowest
        exact absurd (Nat.lt_trans (hbelow lowest hlowest) (Nat.lt_of_le_of_lt hle hlt))
          (Nat.lt_irrefl _)
      · rintro - lowest highest hlowest hhighest m - hle hge
        rw [hlow] at hlowest
        rw [hnew] at hhighest
        cases hlowest
        cases hhighest
        exact (hobserved m).mpr (.inl (Nat.le_antisymm hge hle))
    · rw [noHole_iff_covered, hnew]
      constructor
      · intro hrange
        exact ⟨fun _ _ => startsAt_of_covered hrange hmessages hobserved hhistory,
          fun _ hnever => absurd habove hnever⟩
      · rintro ⟨hstarts, -⟩
        exact hcovered.extend hwaiting (hstarts hmay habove) hmessages hobserved hhistory
  · rcases hwritten.history with ⟨⟨hdone, hbelow⟩, hlow⟩ | ⟨hkept, hhistory⟩
    · constructor
      · intro hrange
        refine ⟨fun hmay habove => absurd ⟨hmay, habove⟩ hnot, ?_⟩
        intro _ _ _ highest hhighest m hm hlt hge
        rw [← hmessages] at hm
        have hrow := hrange postId highest hlow (hsame.trans hhighest) m hm (Nat.le_of_lt hlt) hge
        rcases (hobserved m).mp hrow with rfl | hold
        · exact absurd hlt (Nat.lt_irrefl _)
        · exact hold
      · rintro ⟨-, hreaches⟩ lowest highest hlowest hhighest m hm hle hge
        rw [hlow] at hlowest
        cases hlowest
        rw [hmessages] at hm
        refine (hobserved m).mpr ?_
        rcases Nat.lt_or_eq_of_le hle with hlt | heq
        · exact .inr (hreaches hdone (fun habove => hnot ⟨hmoves hdone, habove⟩)
            (hcursor hdone ▸ hbelow) highest (hsame.symm.trans hhighest) m hm hlt hge)
        · exact .inl heq.symm
    · constructor
      · intro _
        refine ⟨fun hmay habove => absurd ⟨hmay, habove⟩ hnot, ?_⟩
        intro hdone _ hbelow
        exact absurd ⟨hdone, (hcursor hdone).symm ▸ hbelow⟩ hkept
      · intro _
        rw [noHole_iff_covered, hsame]
        exact (noHole_iff_covered.mp hstored).frame hmessages
          (fun m hm => (hobserved m).mpr (.inr hm)) hhistory

end Ranges

def CatchUpPass.waiting (pass : CatchUpPass) : List PostId :=
  if pass.isInitial then (pass.page.map CrawlPage.pending).getD [] else []

/-- What keeps a run without holes. -/
structure HoleFree (s : CrawlState) : Prop where
  shape : CrawlShape s
  stored : s.NoHole
  pass : ∀ pass, s.pass = some pass → s.Covered pass.channel.lastReadPostId pass.waiting

section Steps

variable {s t : CrawlState}

theorem HoleFree.live_iff (h : HoleFree s) {listener : LiveListener} {postId : PostId}
    {answers : MessageAnswers} {now : Time} (hlistener : s.listener = some listener) :
    (s.afterLive listener postId
        (liveMessage answers now postId listener.channel (s.posts postId))).NoHole ↔
      LiveInOrder s postId answers := by
  refine Iff.trans (noHole_iff_of_written h.stored (noHole_iff_covered.mp h.stored)
    (fun _ hnone => nomatch hnone) rfl
    (fun m => observed_commitMessage listener.channel) live_written
    (fun hfalse => nomatch hfalse) (fun hfalse => nomatch hfalse)) ?_
  constructor
  · rintro ⟨hstarts, -⟩ other hother
    cases hlistener.symm.trans hother
    exact hstarts
  · intro horder
    exact ⟨horder listener hlistener, fun hfalse => nomatch hfalse⟩

section PassMessage

variable {pass : CatchUpPass} {page : CrawlPage} {postId : PostId} {rest : List PostId}
  {answers : MessageAnswers} {now : Time}

theorem le_of_mem_pending (h : PageShape s pass page) (hpending : page.pending = postId :: rest) :
    ∀ m ∈ page.pending, postId ≤ m := by
  have hsorted : (postId :: rest).Pairwise (· < ·) := hpending ▸ h.sorted
  intro m hm
  rw [hpending] at hm
  rcases List.mem_cons.mp hm with rfl | hrest
  · exact Nat.le_refl _
  · exact Nat.le_of_lt ((List.pairwise_cons.mp hsorted).1 m hrest)

theorem waiting_eq (hinitial : pass.isInitial = true) (hpage : pass.page = some page) :
    pass.waiting = page.pending := by
  rw [CatchUpPass.waiting, hinitial, hpage]
  rfl

theorem mem_waiting_imp {m : PostId} (hpage : pass.page = some page) (hm : m ∈ pass.waiting) :
    pass.isInitial = true ∧ m ∈ page.pending := by
  rw [CatchUpPass.waiting, hpage] at hm
  split at hm
  · next hinitial => exact ⟨hinitial, hm⟩
  · cases hm

theorem PageShape.startsAt (h : PageShape s pass page) (hforward : pass.isInitial = false)
    (hpending : page.pending = postId :: rest) :
    s.StartsAt pass.channel.lastReadPostId postId := by
  intro lowest _ m hm _ habove hlt
  rcases h.gapless hforward m hm habove ⟨postId, hpending ▸ List.mem_cons_self, hlt⟩ with
    hwaiting | hobserved
  · exact absurd hlt (Nat.not_lt.mpr (le_of_mem_pending h hpending m hwaiting))
  · exact hobserved

theorem HoleFree.passMessage_iff (h : HoleFree s) (hpass : s.pass = some pass)
    (hpage : pass.page = some page) (hpending : page.pending = postId :: rest) :
    (s.afterPassMessage pass page postId
        (catchUpMessage true pass.isInitial answers now postId pass.channel
          (s.posts postId))).NoHole ↔
      WindowInOrder s answers now := by
  have hshape := h.shape.pass pass hpass
  refine Iff.trans (noHole_iff_of_written h.stored (h.pass pass hpass)
    (fun m hm => le_of_mem_pending (hshape.page page hpage) hpending m
      (mem_waiting_imp hpage hm).2) rfl
    (fun m => observed_commitMessage pass.loaded)
    (passMessage_written hshape.lastRead_eq hshape.history_eq) ?_ ?_) ?_
  · intro hdone
    simp [hdone]
  · intro hdone
    exact (hshape.initial (Bool.and_eq_true_iff.mp hdone).1).2.2
  constructor
  · rintro ⟨hstarts, hreaches⟩ other otherPage otherId hother hotherPage hhead hinitial
    cases hpass.symm.trans hother
    cases hpage.symm.trans hotherPage
    rw [hpending] at hhead
    cases hhead
    simp only [hinitial, Bool.true_and, Bool.and_true] at hstarts hreaches
    exact ⟨hstarts, hreaches⟩
  intro horder
  cases hinitial : pass.isInitial with
  | true =>
    obtain ⟨hstarts, hreaches⟩ := horder pass page postId hpass hpage
      (hpending ▸ rfl) hinitial
    simp only [Bool.true_and, Bool.and_true]
    exact ⟨hstarts, hreaches⟩
  | false =>
    refine ⟨fun _ _ => (hshape.page page hpage).startsAt hinitial hpending, ?_⟩
    intro hfalse
    cases hfalse

theorem HoleFree.covered_next (h : HoleFree s) (hpass : s.pass = some pass)
    (hpage : pass.page = some page) (hpending : page.pending = postId :: rest)
    {result : MessageRows × MessageEnd} {moves done : Bool}
    (hcopy : MovesExactly moves done postId pass.channel pass.channel result.1.channel)
    (hdone : done = true → pass.isInitial = true)
    (hnoHole : (s.afterPassMessage pass page postId result).NoHole) {next : CatchUpPass}
    (hnext : (s.afterPassMessage pass page postId result).pass = some next) :
    (s.afterPassMessage pass page postId result).Covered next.channel.lastReadPostId
      next.waiting := by
  have hshape := h.shape.pass pass hpass
  have hwritten : MovesExactly moves done postId pass.channel s.channel
      (s.afterPassMessage pass page postId result).channel :=
    hcopy.writeBack hshape.lastRead_eq hshape.history_eq s.channel
  have hobserved : ∀ m, (s.afterPassMessage pass page postId result).Observed m ↔
      m = postId ∨ s.Observed m := fun m => observed_commitMessage pass.loaded
  obtain ⟨-, hchannel, hsame, page', hpage', hrest⟩ := pass_afterPassMessage hpending hnext
  have hstill : ∀ m, pass.isInitial = true → m ∈ page.pending →
      (s.afterPassMessage pass page postId result).Observed m ∨ m ∈ next.waiting := by
    intro m hinitial hm
    rw [hpending] at hm
    rcases List.mem_cons.mp hm with rfl | hm
    · exact .inl ((hobserved m).mpr (.inl rfl))
    · rw [waiting_eq (hsame.trans hinitial) hpage', hrest]
      exact .inr hm
  rw [hchannel]
  rcases hcopy.lastRead with ⟨hmoved, hnew⟩ | ⟨hnot, hkept⟩
  · rcases hwritten.lastRead with ⟨-, hstored⟩ | ⟨hnever, -⟩
    · rw [hnew.trans hstored.symm]
      exact (noHole_iff_covered.mp hnoHole).mono
    · exact absurd hmoved hnever
  rw [hkept]
  intro lowest highest hlowest hhighest m hm hle hge
  rcases hwritten.history with ⟨⟨hdone', -⟩, hlow⟩ | ⟨-, hhistory⟩
  · rw [hlow] at hlowest
    cases hlowest
    rcases Nat.lt_or_eq_of_le hle with hlt | heq
    · have hbehind : ¬ Above pass.channel.lastReadPostId m := fun habove =>
        Nat.not_lt.mpr hge (habove highest hhighest)
      rcases (hshape.page page hpage).latest (hdone hdone') m hm hbehind
        ⟨postId, hpending ▸ List.mem_cons_self, hlt⟩ with hmem | hrow
      · exact hstill m (hdone hdone') hmem
      · exact .inl ((hobserved m).mpr (.inr hrow))
    · exact .inl ((hobserved m).mpr (.inl heq.symm))
  · rcases h.pass pass hpass lowest highest (hhistory.symm.trans hlowest) hhighest m hm hle hge
      with hrow | hmem
    · exact .inl ((hobserved m).mpr (.inr hrow))
    · obtain ⟨hinitial, hmem⟩ := mem_waiting_imp hpage hmem
      exact hstill m hinitial hmem

end PassMessage

section Kept

variable (h : HoleFree s)

include h

theorem HoleFree.frame (hshape : CrawlShape t)
    (hmessages : t.messages = s.messages) (hposts : t.posts = s.posts)
    (hlastRead : t.channel.lastReadPostId = s.channel.lastReadPostId)
    (hhistory : t.channel.historyCursorPostId = s.channel.historyCursorPostId)
    (hpass : ∀ pass, t.pass = some pass →
      s.Covered pass.channel.lastReadPostId pass.waiting) : HoleFree t := by
  have hobserved : ∀ m, s.Observed m → t.Observed m := by
    intro m hm
    rw [CrawlState.Observed, hposts]
    exact hm
  refine ⟨hshape, ?_, fun pass hmem => (hpass pass hmem).frame hmessages hobserved hhistory⟩
  rw [noHole_iff_covered, hlastRead]
  exact (noHole_iff_covered.mp h.stored).frame hmessages hobserved hhistory

theorem HoleFree.appear {postId : PostId} (hnew : ∀ m ∈ s.messages, m < postId) :
    HoleFree (s.appear postId) where
  shape := h.shape.appear hnew
  stored := noHole_iff_covered.mpr
    ((noHole_iff_covered.mp h.stored).appear hnew h.shape.lastRead_exists)
  pass pass hpass := (h.pass pass hpass).appear hnew fun id hid =>
    ((h.shape.pass pass hpass).lastRead_exists id hid).1

theorem HoleFree.openPage (hstep : s.openPage = some t) : HoleFree t := by
  have hshape := h.shape.openPage hstep
  obtain ⟨pass, hpass, hnone, rfl⟩ := openPage_eq_some hstep
  refine h.frame hshape rfl rfl rfl rfl ?_
  intro next hnext
  cases hnext
  have hcovered := h.pass pass hpass
  have hempty : pass.waiting = [] := by
    rw [CatchUpPass.waiting, hnone]
    exact ite_self _
  rw [hempty] at hcovered
  exact hcovered.mono

theorem HoleFree.endPage {now : Time} (hstep : s.endPage now = some t) : HoleFree t := by
  have hshape := h.shape.endPage hstep
  obtain ⟨pass, page, hpass, hpage, hpending, hend⟩ := endPage_eq_some hstep
  have hpassShape := h.shape.pass pass hpass
  have hcovered := h.pass pass hpass
  have hempty : pass.waiting = [] := by
    rw [CatchUpPass.waiting, hpage]
    simp [hpending]
  rw [hempty] at hcovered
  cases hend with
  | completed hinitial =>
    refine h.frame hshape rfl rfl rfl rfl ?_
    intro next hnext
    cases hnext
    exact hcovered
  | finished hforward =>
    exact h.frame hshape rfl rfl (lastRead_writeBack_of_eq hpassShape.lastRead_eq.symm)
      (history_writeBack_of_eq hpassShape.history_eq.symm) fun _ hnone => nomatch hnone
  | continued hforward =>
    refine h.frame hshape rfl rfl rfl rfl ?_
    intro next hnext
    cases hnext
    exact hcovered

theorem HoleFree.interruptPass {commits : Bool}
    (hstep : s.interruptPass commits = some t) : HoleFree t := by
  have hshape := h.shape.interruptPass hstep
  obtain ⟨pass, hpass, rfl⟩ := interruptPass_eq_some hstep
  have hpassShape := h.shape.pass pass hpass
  cases commits with
  | true =>
    exact h.frame hshape rfl rfl (lastRead_writeBack_of_eq hpassShape.lastRead_eq.symm)
      (history_writeBack_of_eq hpassShape.history_eq.symm) fun _ hnone => nomatch hnone
  | false => exact h.frame hshape rfl rfl rfl rfl fun _ hnone => nomatch hnone

theorem HoleFree.olderMessage {older : OlderPass} {postId : PostId}
    {rest : List PostId} {result : MessageRows × MessageEnd} (holder : s.older = some older)
    (hpending : older.pending = postId :: rest)
    (hmoved : PageMove false true postId older.channel result) :
    HoleFree (s.afterOlderMessage older postId result) := by
  have hshape := h.shape.older older holder
  have hc : Committed s (s.afterOlderMessage older postId result) false true postId :=
    hmoved.move.committed rfl rfl id rfl rfl rfl
  refine ⟨h.shape.olderMessage holder hpending hmoved, ?_, ?_⟩
  · have hlastRead : (s.afterOlderMessage older postId result).channel.lastReadPostId =
        s.channel.lastReadPostId := by
      rcases hc.lastRead with hsame | ⟨hmay, -⟩
      · exact hsame
      · cases hmay
    rw [noHole_iff_covered, hlastRead]
    exact (noHole_iff_covered.mp h.stored).older hshape hpending hc
  · intro pass hpass
    exact (h.pass pass hpass).older hshape hpending hc

theorem HoleFree.live {listener : LiveListener} {postId : PostId}
    {answers : MessageAnswers} {now : Time} (hlistener : s.listener = some listener)
    (hevent : postId ∈ listener.events) (horder : LiveInOrder s postId answers) :
    HoleFree (s.afterLive listener postId
      (liveMessage answers now postId listener.channel (s.posts postId))) := by
  refine ⟨h.shape.live hlistener hevent, (h.live_iff hlistener).mpr horder, ?_⟩
  intro pass hpass
  refine (h.pass pass hpass).frame rfl
    (fun m hm => (observed_commitMessage listener.channel).mpr (.inr hm)) ?_
  have hwritten : MovesExactly answers.fate.movesCheckpoint false postId listener.channel
      s.channel (s.afterLive listener postId
        (liveMessage answers now postId listener.channel (s.posts postId))).channel :=
    live_written
  rcases hwritten.history with ⟨⟨hmay, -⟩, -⟩ | ⟨-, hsame⟩
  · cases hmay
  · exact hsame

theorem HoleFree.passMessage {pass : CatchUpPass} {page : CrawlPage}
    {postId : PostId} {rest : List PostId} {answers : MessageAnswers} {now : Time}
    (hpass : s.pass = some pass) (hpage : pass.page = some page)
    (hpending : page.pending = postId :: rest) (horder : WindowInOrder s answers now) :
    HoleFree (s.afterPassMessage pass page postId
      (catchUpMessage true pass.isInitial answers now postId pass.channel (s.posts postId))) := by
  have hnoHole := (h.passMessage_iff hpass hpage hpending).mpr horder
  exact ⟨h.shape.passMessage hpass hpage hpending catchUpMessage_pageMove, hnoHole,
    fun next hnext => h.covered_next hpass hpage hpending catchUpMessage_movesExactly
      (fun hdone => (Bool.and_eq_true_iff.mp hdone).1) hnoHole hnext⟩

theorem HoleFree.step {label : CrawlLabel} (hstep : crawlStep s label = some t)
    (horder : StepInOrder s label) : HoleFree t := by
  have hshape := h.shape.step hstep
  cases label with
  | appear postId =>
    obtain ⟨hnew, heq⟩ := Option.ite_none_right_eq_some.mp hstep
    cases heq
    exact h.appear hnew
  | startListener | reloadListener | stopListener | interruptOlder =>
    cases hstep
    exact h.frame hshape rfl rfl rfl rfl h.pass
  | live postId answers now =>
    obtain ⟨listener, hlistener, hevent, rfl⟩ := live_eq_some hstep
    exact h.live hlistener hevent horder
  | startPass limit =>
    obtain ⟨-, heq⟩ := Option.ite_none_right_eq_some.mp hstep
    cases heq
    refine h.frame hshape rfl rfl rfl rfl ?_
    intro next hnext
    cases hnext
    exact (noHole_iff_covered.mp h.stored).mono
  | openPage => exact h.openPage hstep
  | passMessage answers now =>
    obtain ⟨pass, page, postId, rest, hpass, hpage, hpending, rfl⟩ := passMessage_eq_some hstep
    exact h.passMessage hpass hpage hpending horder
  | endPage now => exact h.endPage hstep
  | interruptPass commits => exact h.interruptPass hstep
  | startOlder limit =>
    obtain ⟨-, -, boundary, -, rfl⟩ := startOlder_eq_some hstep
    exact h.frame hshape rfl rfl rfl rfl h.pass
  | olderMessage answers now =>
    obtain ⟨older, postId, rest, holder, hpending, rfl⟩ := olderMessage_eq_some hstep
    exact h.olderMessage holder hpending catchUpMessage_pageMove
  | endOlder now =>
    obtain ⟨older, holder, rfl⟩ := endOlder_eq_some hstep
    exact h.frame hshape rfl rfl (lastRead_writeBack_of_eq rfl) (history_writeBack_of_eq rfl)
      h.pass

theorem HoleFree.order_of_noHole {label : CrawlLabel}
    (hstep : crawlStep s label = some t) (hnoHole : t.NoHole) : StepInOrder s label := by
  cases label with
  | live postId answers now =>
    obtain ⟨listener, hlistener, -, rfl⟩ := live_eq_some hstep
    exact (h.live_iff hlistener).mp hnoHole
  | passMessage answers now =>
    obtain ⟨pass, page, postId, rest, hpass, hpage, hpending, rfl⟩ := passMessage_eq_some hstep
    exact (h.passMessage_iff hpass hpage hpending).mp hnoHole
  | appear | startListener | reloadListener | stopListener | startPass | openPage | endPage
  | interruptPass | startOlder | olderMessage | endOlder | interruptOlder => trivial

end Kept

end Steps

theorem HoleFree.fresh {messages : List PostId} (hsorted : messages.Pairwise (· < ·)) :
    HoleFree { messages := messages } where
  shape := .fresh hsorted
  stored _ _ hnone := nomatch hnone
  pass _ hnone := nomatch hnone

/-- A crawl of a new channel keeps every message between its cursors observed exactly as long as
its live events and the messages of its initial windows come in order. -/
theorem crawl_noHole_iff {messages : List PostId} (hsorted : messages.Pairwise (· < ·))
    (labels : List CrawlLabel) :
    (∀ x ∈ transitions crawlStep { messages := messages } labels,
        x.before.NoHole ∧ x.after.NoHole) ↔
      ∀ x ∈ transitions crawlStep { messages := messages } labels,
        StepInOrder x.before x.label := by
  constructor
  · intro hrun x hx
    have hbefore : HoleFree x.before := by
      refine invariant_before (P := HoleFree) (.fresh hsorted) ?_ hx
      intro y hy hfree
      exact hfree.step (step_of_mem_transitions hy)
        (hfree.order_of_noHole (step_of_mem_transitions hy) (hrun y hy).2)
    exact hbefore.order_of_noHole (step_of_mem_transitions hx) (hrun x hx).2
  intro horder x hx
  have hbefore : HoleFree x.before :=
    invariant_before (P := HoleFree) (.fresh hsorted)
      (fun y hy hfree => hfree.step (step_of_mem_transitions hy) (horder y hy)) hx
  exact ⟨hbefore.stored, (hbefore.step (step_of_mem_transitions hx) (horder x hx)).stored⟩

/-- Messages 1 and 2 are crawled, 3 and 4 appear while no listener runs, and after a reload the
event of 5 is handled before the catch-up pass reads the checkpoint. -/
def eventBeforeCatchUp : List CrawlLabel :=
  [.startPass 10, .openPage, .passMessage {} 0, .passMessage {} 0, .endPage 0, .openPage,
    .endPage 0, .appear 3, .appear 4, .startListener, .appear 5, .live 5 {} 1, .startPass 10,
    .openPage, .endPage 1]

theorem crawl_noHole_iff_reload :
    (∀ x ∈ transitions crawlStep { messages := [1, 2] } eventBeforeCatchUp,
        x.before.NoHole ∧ x.after.NoHole) ↔
      ∀ x ∈ transitions crawlStep { messages := [1, 2] } eventBeforeCatchUp,
        StepInOrder x.before x.label :=
  crawl_noHole_iff (by decide) eventBeforeCatchUp

/-- The forward page starts above 5, and nothing asks for 3 and 4 again. -/
theorem hole_eventBeforeCatchUp :
    ¬ ∀ messages : List PostId, messages.Pairwise (· < ·) → ∀ labels : List CrawlLabel,
      ∀ x ∈ transitions crawlStep { messages := messages } labels,
        x.before.NoHole ∧ x.after.NoHole := by
  intro h
  have hrun := h [1, 2] (by decide) eventBeforeCatchUp
  have hstart : CrawlState.NoHole { messages := [1, 2] } := fun _ _ hnone => nomatch hnone
  have hfinal := invariant_final hstart fun x hx _ => (hrun x hx).2
  have hthree : (final crawlStep { messages := [1, 2] } eventBeforeCatchUp).Observed 3 :=
    hfinal 1 5 rfl rfl 3 (by decide) (by decide) (by decide)
  revert hthree
  decide

end MemeExpert.Crawlers
