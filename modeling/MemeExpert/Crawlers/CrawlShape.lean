import MemeExpert.Lib.Keyset
import MemeExpert.Crawlers.ChannelCrawl

/-! What holds in every run: pages yield their windows in order and leave none out, initial pass
and older history do not meet, and cursors are ids of messages. -/

namespace MemeExpert.Crawlers

open Keyset

def CrawlState.Observed (s : CrawlState) (postId : PostId) : Prop := (s.posts postId).isSome = true

instance (s : CrawlState) (postId : PostId) : Decidable (s.Observed postId) :=
  inferInstanceAs (Decidable (_ = _))

/-- What is left of a page is sorted, and of its window nothing was passed over. -/
structure PageShape (s : CrawlState) (pass : CatchUpPass) (page : CrawlPage) : Prop where
  sorted : page.pending.Pairwise (· < ·)
  exist : ∀ m ∈ page.pending, m ∈ s.messages
  ahead : pass.isInitial = false → ∀ m ∈ page.pending, Above pass.channel.lastReadPostId m
  gapless : pass.isInitial = false → ∀ m ∈ s.messages, Above pass.channel.lastReadPostId m →
    (∃ next ∈ page.pending, m < next) → m ∈ page.pending ∨ s.Observed m
  latest : pass.isInitial = true → ∀ m ∈ s.messages, ¬ Above pass.channel.lastReadPostId m →
    (∃ next ∈ page.pending, next < m) → m ∈ page.pending ∨ s.Observed m

structure PassShape (s : CrawlState) (pass : CatchUpPass) : Prop where
  lastRead_eq : pass.loaded.lastReadPostId = pass.channel.lastReadPostId
  history_eq : pass.loaded.historyCursorPostId = pass.channel.historyCursorPostId
  completed_le : pass.loaded.initialCatchupCompleted = true →
    pass.channel.initialCatchupCompleted = true
  lastRead_exists : ∀ id, pass.channel.lastReadPostId = some id →
    id ∈ s.messages ∧ s.channel.lastReadPostId ≠ none
  initial : pass.isInitial = true → s.channel.initialCatchupCompleted = false ∧
    pass.channel.initialCatchupCompleted = false ∧
    pass.channel.historyCursorPostId = s.channel.historyCursorPostId
  anchored : pass.isInitial = true → pass.channel.lastReadPostId = none →
    s.channel.historyCursorPostId = none
  page : ∀ page, pass.page = some page → PageShape s pass page

/-- Older history is read downwards, all of it below the stored cursor. -/
structure OlderShape (s : CrawlState) (older : OlderPass) : Prop where
  completed : s.channel.initialCatchupCompleted = true ∧
    older.channel.initialCatchupCompleted = true
  history_eq : older.channel.historyCursorPostId = s.channel.historyCursorPostId
  sorted : older.pending.Pairwise (· > ·)
  exist : ∀ m ∈ older.pending, m ∈ s.messages
  below : ∃ id, s.channel.historyCursorPostId = some id ∧ (∀ m ∈ older.pending, m < id) ∧
    ∀ m ∈ s.messages, m < id → (∃ next ∈ older.pending, next < m) → m ∈ older.pending

structure CrawlShape (s : CrawlState) : Prop where
  sorted : s.messages.Pairwise (· < ·)
  observed_exists : ∀ m, s.Observed m → m ∈ s.messages
  events_exist : ∀ listener, s.listener = some listener → ∀ m ∈ listener.events, m ∈ s.messages
  lastRead_exists : ∀ id, s.channel.lastReadPostId = some id → id ∈ s.messages
  history_exists : ∀ id, s.channel.historyCursorPostId = some id → id ∈ s.messages
  anchored : s.channel.initialCatchupCompleted = false → s.channel.lastReadPostId = none →
    s.channel.historyCursorPostId = none
  pass : ∀ pass, s.pass = some pass → PassShape s pass
  older : ∀ older, s.older = some older → OlderShape s older

theorem ne_none_of_eq_some {α : Type} {o : Option α} {a : α} (h : o = some a) : o ≠ none :=
  Option.ne_none_iff_exists'.mpr ⟨a, h⟩

section Windows

variable {messages : List PostId} {limit : Nat}

theorem lt_asymm_id (a b : PostId) : a < b → ¬ b < a := Nat.lt_asymm

theorem gt_asymm_id (a b : PostId) : a > b → ¬ b > a := Nat.lt_asymm

variable {m : PostId} {minMessageId : Option PostId}

theorem above_iff_all :
    (minMessageId.all fun least => decide (least < m)) = true ↔ Above minMessageId m := by
  cases minMessageId with
  | none => exact ⟨fun _ _ h => (nomatch h), fun _ => rfl⟩
  | some least =>
    simp only [Option.all_some, decide_eq_true_eq]
    constructor
    · intro h id hid
      cases hid
      exact h
    · intro h
      exact h least rfl

theorem mem_forwardWindow (h : m ∈ forwardWindow limit minMessageId messages) :
    m ∈ messages ∧ Above minMessageId m := by
  obtain ⟨hm, habove⟩ := List.mem_filter.mp (List.mem_of_mem_take h)
  exact ⟨hm, above_iff_all.mp habove⟩

theorem sorted_forwardWindow (hsorted : messages.Pairwise (· < ·)) (minMessageId : Option PostId) :
    (forwardWindow limit minMessageId messages).Pairwise (· < ·) :=
  hsorted.sublist ((List.take_sublist ..).trans List.filter_sublist)

theorem forwardWindow_complete (hsorted : messages.Pairwise (· < ·)) (hm : m ∈ messages)
    (habove : Above minMessageId m)
    (hnext : ∃ next ∈ forwardWindow limit minMessageId messages, m < next) :
    m ∈ forwardWindow limit minMessageId messages := by
  obtain ⟨next, hnext, hlt⟩ := hnext
  exact mem_take_of_rel lt_asymm_id (hsorted.filter _) hnext
    (List.mem_filter.mpr ⟨hm, above_iff_all.mpr habove⟩) hlt

theorem mem_olderWindow {before : PostId} (h : m ∈ olderWindow limit before messages) :
    m ∈ messages ∧ m < before := by
  obtain ⟨hm, hlt⟩ := List.mem_filter.mp (List.mem_reverse.mp (List.mem_of_mem_take h))
  exact ⟨hm, of_decide_eq_true hlt⟩

theorem sorted_olderRows (hsorted : messages.Pairwise (· < ·)) (before : PostId) :
    (messages.filter fun m => decide (m < before)).reverse.Pairwise (· > ·) :=
  List.pairwise_reverse.mpr (hsorted.filter _)

theorem sorted_olderWindow (hsorted : messages.Pairwise (· < ·)) (before : PostId) :
    (olderWindow limit before messages).Pairwise (· > ·) :=
  (sorted_olderRows hsorted before).sublist (List.take_sublist ..)

theorem olderWindow_complete (hsorted : messages.Pairwise (· < ·)) {before : PostId}
    (hm : m ∈ messages) (hlt : m < before)
    (hnext : ∃ next ∈ olderWindow limit before messages, next < m) :
    m ∈ olderWindow limit before messages := by
  obtain ⟨next, hnext, hgt⟩ := hnext
  exact mem_take_of_rel gt_asymm_id (sorted_olderRows hsorted before) hnext
    (List.mem_reverse.mpr (List.mem_filter.mpr ⟨hm, decide_eq_true hlt⟩)) hgt

variable {s t : CrawlState} {pass : CatchUpPass} {older : OlderPass}

theorem PassShape.frame (h : PassShape s pass) (hmessages : t.messages = s.messages)
    (hobserved : ∀ m, s.Observed m → t.Observed m)
    (hlastRead : s.channel.lastReadPostId ≠ none → t.channel.lastReadPostId ≠ none)
    (hchannel : pass.isInitial = true →
      t.channel.initialCatchupCompleted = s.channel.initialCatchupCompleted ∧
        t.channel.historyCursorPostId = s.channel.historyCursorPostId) : PassShape t pass where
  lastRead_eq := h.lastRead_eq
  history_eq := h.history_eq
  completed_le := h.completed_le
  lastRead_exists id hid := by
    obtain ⟨hmem, hstored⟩ := h.lastRead_exists id hid
    exact ⟨hmessages ▸ hmem, hlastRead hstored⟩
  initial hinitial := by
    obtain ⟨hcompleted, hhistory⟩ := hchannel hinitial
    rw [hcompleted, hhistory]
    exact h.initial hinitial
  anchored hinitial hnone := by
    rw [(hchannel hinitial).2]
    exact h.anchored hinitial hnone
  page page hpage := by
    have hshape := h.page page hpage
    refine ⟨hshape.sorted, hmessages ▸ hshape.exist, hshape.ahead, ?_, ?_⟩
    · intro hforward m hm habove hnext
      exact (hshape.gapless hforward m (hmessages ▸ hm) habove hnext).imp_right (hobserved m)
    · intro hinitial m hm hread hnext
      exact (hshape.latest hinitial m (hmessages ▸ hm) hread hnext).imp_right (hobserved m)

theorem OlderShape.frame (h : OlderShape s older) (hmessages : t.messages = s.messages)
    (hcompleted : s.channel.initialCatchupCompleted = true →
      t.channel.initialCatchupCompleted = true)
    (hhistory : t.channel.historyCursorPostId = s.channel.historyCursorPostId) :
    OlderShape t older where
  completed := ⟨hcompleted h.completed.1, h.completed.2⟩
  history_eq := h.history_eq.trans hhistory.symm
  sorted := h.sorted
  exist := hmessages ▸ h.exist
  below := by
    rw [hhistory, hmessages]
    exact h.below

end Windows

section Steps

variable {s t : CrawlState}

variable {m : PostId}

theorem observed_commitMessage (loaded : CrawledChannel) {postId : PostId}
    {rows : MessageRows} :
    (s.commitMessage loaded postId rows).Observed m ↔ m = postId ∨ s.Observed m := by
  by_cases heq : m = postId
  · subst heq
    simp [CrawlState.Observed, posts_commitMessage_self]
  · simp [CrawlState.Observed, posts_commitMessage_of_ne heq, heq]

theorem Above.trans {cursor : Option PostId} {id : PostId} (h : Above cursor id) (hlt : id < m) :
    Above cursor m :=
  fun other hother => Nat.lt_trans (h other hother) hlt

theorem ChannelMove.above {advanceCheckpoint advanceCursor : Bool} {postId : PostId}
    {before after : CrawledChannel}
    (h : ChannelMove advanceCheckpoint advanceCursor postId before after)
    (habove : Above after.lastReadPostId m) : Above before.lastReadPostId m := by
  rcases h.lastRead with hsame | ⟨-, hmoved, hbefore⟩
  · exact hsame ▸ habove
  · exact hbefore.trans (habove postId hmoved)

variable {page : CrawlPage}

theorem PageShape.appear {pass : CatchUpPass} {postId : PostId}
    (h : PageShape s pass page) (hnew : ∀ m ∈ s.messages, m < postId)
    (hread : ∀ id, pass.channel.lastReadPostId = some id → id ∈ s.messages) :
    PageShape (s.appear postId) pass page where
  sorted := h.sorted
  exist m hm := List.mem_append_left _ (h.exist m hm)
  ahead := h.ahead
  gapless hforward m hm habove hnext := by
    rcases List.mem_append.mp hm with hold | hadded
    · exact h.gapless hforward m hold habove hnext
    obtain ⟨next, hpending, hlt⟩ := hnext
    rw [List.mem_singleton.mp hadded] at hlt
    exact absurd hlt (Nat.lt_asymm (hnew next (h.exist next hpending)))
  latest hinitial m hm hbehind hnext := by
    rcases List.mem_append.mp hm with hold | hadded
    · exact h.latest hinitial m hold hbehind hnext
    · rw [List.mem_singleton.mp hadded] at hbehind
      exact absurd (fun id hid => hnew id (hread id hid)) hbehind

theorem CrawlShape.appear (h : CrawlShape s) {postId : PostId}
    (hnew : ∀ m ∈ s.messages, m < postId) : CrawlShape (s.appear postId) where
  sorted := by
    refine List.pairwise_append.mpr ⟨h.sorted, List.pairwise_singleton .., ?_⟩
    intro m hm other hother
    rw [List.mem_singleton.mp hother]
    exact hnew m hm
  observed_exists m hm := List.mem_append_left _ (h.observed_exists m hm)
  events_exist listener hlistener m hm := by
    obtain ⟨old, hold, rfl⟩ := Option.map_eq_some_iff.mp hlistener
    rcases List.mem_append.mp hm with hm | hm
    · exact List.mem_append_left _ (h.events_exist old hold m hm)
    · exact List.mem_append_right _ hm
  lastRead_exists id hid := List.mem_append_left _ (h.lastRead_exists id hid)
  history_exists id hid := List.mem_append_left _ (h.history_exists id hid)
  anchored := h.anchored
  pass pass hpass := by
    have hshape := h.pass pass hpass
    refine ⟨hshape.lastRead_eq, hshape.history_eq, hshape.completed_le, ?_, hshape.initial,
      hshape.anchored, ?_⟩
    · intro id hid
      exact ⟨List.mem_append_left _ (hshape.lastRead_exists id hid).1,
        (hshape.lastRead_exists id hid).2⟩
    · intro page hpage
      exact (hshape.page page hpage).appear hnew fun id hid => (hshape.lastRead_exists id hid).1
  older older holder := by
    have hshape := h.older older holder
    obtain ⟨id, hid, hbelow, hcomplete⟩ := hshape.below
    refine ⟨hshape.completed, hshape.history_eq, hshape.sorted, ?_, id, hid, hbelow, ?_⟩
    · intro m hm
      exact List.mem_append_left _ (hshape.exist m hm)
    intro m hm hlt hnext
    rcases List.mem_append.mp hm with hold | hadded
    · exact hcomplete m hold hlt hnext
    · rw [List.mem_singleton.mp hadded] at hlt
      exact absurd hlt (Nat.lt_asymm (hnew id (h.history_exists id hid)))

structure Committed (s t : CrawlState) (advanceCheckpoint advanceCursor : Bool)
    (postId : PostId) : Prop where
  messages : t.messages = s.messages
  observed : ∀ m, t.Observed m ↔ m = postId ∨ s.Observed m
  completed : s.channel.initialCatchupCompleted = true → t.channel.initialCatchupCompleted = true
  lastRead : t.channel.lastReadPostId = s.channel.lastReadPostId ∨
    (advanceCheckpoint = true ∧ t.channel.lastReadPostId = some postId)
  history : t.channel.historyCursorPostId = s.channel.historyCursorPostId ∨
    (advanceCursor = true ∧ t.channel.historyCursorPostId = some postId)

section Committed

variable {advanceCheckpoint advanceCursor : Bool} {postId : PostId}

theorem ChannelMove.committed {loaded before : CrawledChannel} {rows : MessageRows}
    (h : ChannelMove advanceCheckpoint advanceCursor postId before rows.channel)
    (hlastRead : loaded.lastReadPostId = before.lastReadPostId)
    (hhistory : loaded.historyCursorPostId = before.historyCursorPostId)
    (hcompleted : loaded.initialCatchupCompleted = true →
      before.initialCatchupCompleted = true)
    (hmessages : t.messages = s.messages)
    (hposts : t.posts = (s.commitMessage loaded postId rows).posts)
    (hchannel : t.channel = CrawledChannel.writeBack loaded rows.channel s.channel) :
    Committed s t advanceCheckpoint advanceCursor postId := by
  have hwritten := h.writeBack s.channel hlastRead hhistory
  rw [← hchannel] at hwritten
  obtain ⟨hread, hcursor⟩ := hwritten
  refine ⟨hmessages, ?_, ?_, ?_, ?_⟩
  · intro m
    rw [CrawlState.Observed, hposts]
    exact observed_commitMessage loaded
  · intro hstored
    rw [hchannel]
    refine completed_writeBack ?_ hstored
    rw [h.completed]
    exact hcompleted
  · rcases hread with ⟨hsame, -⟩ | ⟨hmay, -, hmoved, -⟩
    · exact .inl hsame
    · exact .inr ⟨hmay, hmoved⟩
  · rcases hcursor with ⟨hsame, -⟩ | ⟨hmay, -, hmoved, -⟩
    · exact .inl hsame
    · exact .inr ⟨hmay, hmoved⟩

variable (hc : Committed s t advanceCheckpoint advanceCursor postId)

include hc

theorem Committed.lastRead_ne_none (h : s.channel.lastReadPostId ≠ none) :
    t.channel.lastReadPostId ≠ none := by
  rcases hc.lastRead with hsame | ⟨-, hmoved⟩
  · exact hsame ▸ h
  · rw [hmoved]
    exact Option.some_ne_none _

theorem Committed.lastRead_exists (hmem : postId ∈ s.messages)
    (h : ∀ id, s.channel.lastReadPostId = some id → id ∈ s.messages) (id : PostId)
    (hid : t.channel.lastReadPostId = some id) : id ∈ t.messages := by
  rw [hc.messages]
  rcases hc.lastRead with hsame | ⟨-, hmoved⟩
  · exact h id (hsame ▸ hid)
  rw [hmoved] at hid
  cases hid
  exact hmem

theorem Committed.history_exists (hmem : postId ∈ s.messages)
    (h : ∀ id, s.channel.historyCursorPostId = some id → id ∈ s.messages) (id : PostId)
    (hid : t.channel.historyCursorPostId = some id) : id ∈ t.messages := by
  rw [hc.messages]
  rcases hc.history with hsame | ⟨-, hmoved⟩
  · exact h id (hsame ▸ hid)
  rw [hmoved] at hid
  cases hid
  exact hmem

theorem Committed.observed_exists (hmem : postId ∈ s.messages)
    (h : ∀ m, s.Observed m → m ∈ s.messages) (m : PostId) (hm : t.Observed m) :
    m ∈ t.messages := by
  rw [hc.messages]
  rcases (hc.observed m).mp hm with rfl | hold
  · exact hmem
  · exact h m hold

theorem Committed.observed_mono (m : PostId) (hm : s.Observed m) : t.Observed m :=
  (hc.observed m).mpr (.inr hm)

theorem Committed.passShape {pass : CatchUpPass} (h : PassShape s pass)
    (hchannel : pass.isInitial = true →
      t.channel.initialCatchupCompleted = s.channel.initialCatchupCompleted ∧
        t.channel.historyCursorPostId = s.channel.historyCursorPostId) : PassShape t pass :=
  h.frame hc.messages hc.observed_mono hc.lastRead_ne_none hchannel

theorem Committed.olderShape {older : OlderPass} (h : OlderShape s older)
    (hcursor : advanceCursor = false) : OlderShape t older := by
  refine h.frame hc.messages hc.completed ?_
  rcases hc.history with hsame | ⟨hmay, -⟩
  · exact hsame
  · rw [hcursor] at hmay
    cases hmay

end Committed

variable {now : Time}

theorem CrawlShape.live (h : CrawlShape s) {listener : LiveListener} {postId : PostId}
    {answers : MessageAnswers} (hlistener : s.listener = some listener)
    (hevent : postId ∈ listener.events) :
    CrawlShape (s.afterLive listener postId
      (liveMessage answers now postId listener.channel (s.posts postId))) := by
  have hmem := h.events_exist listener hlistener postId hevent
  have hmove : ChannelMove true false postId listener.channel
      (liveMessage answers now postId listener.channel (s.posts postId)).1.channel :=
    liveMessage_move
  generalize liveMessage answers now postId listener.channel (s.posts postId) = result at hmove ⊢
  have hc : Committed s (s.afterLive listener postId result) true false postId :=
    hmove.committed rfl rfl id rfl rfl rfl
  have hhistory : (s.afterLive listener postId result).channel.historyCursorPostId =
      s.channel.historyCursorPostId := by
    rcases hc.history with hsame | ⟨hmay, -⟩
    · exact hsame
    · cases hmay
  have hcompleted : (s.afterLive listener postId result).channel.initialCatchupCompleted =
      s.channel.initialCatchupCompleted := completed_writeBack_of_eq hmove.completed
  constructor
  · exact h.sorted
  · exact hc.observed_exists hmem h.observed_exists
  · intro other hother m hm
    simp only [CrawlState.afterLive] at hother
    split at hother
    · cases hother
      exact h.events_exist listener hlistener m (List.mem_of_mem_erase hm)
    all_goals cases hother
  · exact hc.lastRead_exists hmem h.lastRead_exists
  · exact hc.history_exists hmem h.history_exists
  · rw [hhistory, hcompleted]
    intro hnot hnone
    refine h.anchored hnot ?_
    by_contra hold
    exact hc.lastRead_ne_none hold hnone
  · intro pass hpass
    exact hc.passShape (h.pass pass hpass) fun _ => ⟨hcompleted, hhistory⟩
  · intro older holder
    exact hc.olderShape (h.older older holder) rfl

theorem PageShape.next {pass : CatchUpPass} {page : CrawlPage} {postId : PostId}
    {rest : List PostId} {channel : CrawledChannel}
    {advanceCheckpoint advanceCursor : Bool} (h : PageShape s pass page)
    (hpending : page.pending = postId :: rest)
    (hmove : ChannelMove advanceCheckpoint advanceCursor postId pass.channel channel)
    (hc : Committed s t advanceCheckpoint advanceCursor postId) {pass' : CatchUpPass}
    (hinitial : pass'.isInitial = pass.isInitial) (hchannel : pass'.channel = channel)
    {page' : CrawlPage} (hrest : page'.pending = page.pending.tail) : PageShape t pass' page' := by
  rw [hpending, List.tail_cons] at hrest
  have hsorted : (postId :: rest).Pairwise (· < ·) := hpending ▸ h.sorted
  constructor
  · rw [hrest]
    exact hsorted.of_cons
  · intro m hm
    rw [hrest] at hm
    rw [hc.messages]
    exact h.exist m (hpending ▸ List.mem_cons_of_mem _ hm)
  · intro hforward m hm id hid
    rw [hrest] at hm
    rw [hchannel] at hid
    rcases hmove.lastRead with hsame | ⟨-, hnew, -⟩
    · exact h.ahead (hinitial ▸ hforward) m (hpending ▸ List.mem_cons_of_mem _ hm) id (hsame ▸ hid)
    rw [hnew] at hid
    cases hid
    exact (List.pairwise_cons.mp hsorted).1 m hm
  · intro hforward m hm habove hnext
    rw [hchannel] at habove
    rw [hrest] at hnext ⊢
    obtain ⟨next, hmem, hlt⟩ := hnext
    rcases h.gapless (hinitial ▸ hforward) m (hc.messages ▸ hm) (hmove.above habove)
      ⟨next, hpending ▸ List.mem_cons_of_mem _ hmem, hlt⟩ with hwaiting | hobserved
    · rw [hpending] at hwaiting
      rcases List.mem_cons.mp hwaiting with rfl | hwaiting
      · exact .inr ((hc.observed m).mpr (.inl rfl))
      · exact .inl hwaiting
    · exact .inr (hc.observed_mono m hobserved)
  · intro hfirst m hm hbehind hnext
    rw [hchannel] at hbehind
    rw [hrest] at hnext ⊢
    obtain ⟨next, hmem, hlt⟩ := hnext
    rcases hmove.lastRead with hsame | ⟨-, hnew, -⟩
    · rw [hsame] at hbehind
      rcases h.latest (hinitial ▸ hfirst) m (hc.messages ▸ hm) hbehind
        ⟨next, hpending ▸ List.mem_cons_of_mem _ hmem, hlt⟩ with hwaiting | hobserved
      · rw [hpending] at hwaiting
        rcases List.mem_cons.mp hwaiting with rfl | hwaiting
        · exact .inr ((hc.observed m).mpr (.inl rfl))
        · exact .inl hwaiting
      · exact .inr (hc.observed_mono m hobserved)
    refine absurd (fun id hid => ?_) hbehind
    rw [hnew] at hid
    cases hid
    exact Nat.lt_trans ((List.pairwise_cons.mp hsorted).1 next hmem) hlt

theorem PassShape.completed_written {pass : CatchUpPass} {updated : CrawledChannel}
    (h : PassShape s pass) (hinitial : pass.isInitial = true)
    (hsame : updated.initialCatchupCompleted = pass.channel.initialCatchupCompleted) :
    (CrawledChannel.writeBack pass.loaded updated s.channel).initialCatchupCompleted =
      s.channel.initialCatchupCompleted := by
  refine completed_writeBack_of_eq ?_
  rw [hsame, (h.initial hinitial).2.1]
  cases hloaded : pass.loaded.initialCatchupCompleted with
  | false => rfl
  | true =>
    have htrue := h.completed_le hloaded
    rw [(h.initial hinitial).2.1] at htrue
    cases htrue

variable {rest : List PostId}

theorem mem_of_pending {pass : CatchUpPass} {postId : PostId} (h : PageShape s pass page)
    (hpending : page.pending = postId :: rest) :
    postId ∈ s.messages :=
  h.exist postId (hpending ▸ List.mem_cons_self)

section Kept

variable (h : CrawlShape s)

include h

theorem CrawlShape.passMessage {pass : CatchUpPass}
    {postId : PostId} {result : MessageRows × MessageEnd}
    (hpass : s.pass = some pass) (hpage : pass.page = some page)
    (hpending : page.pending = postId :: rest)
    (hmoved : PageMove true pass.isInitial postId pass.channel result) :
    CrawlShape (s.afterPassMessage pass page postId result) := by
  have hshape := h.pass pass hpass
  have hmem : postId ∈ s.messages := mem_of_pending (hshape.page page hpage) hpending
  have hc : Committed s (s.afterPassMessage pass page postId result) true pass.isInitial postId :=
    hmoved.move.committed hshape.lastRead_eq hshape.history_eq hshape.completed_le rfl rfl rfl
  obtain ⟨hread, hcursor⟩ := hmoved.move.writeBack s.channel hshape.lastRead_eq hshape.history_eq
  have hlastRead : ∀ id, result.1.channel.lastReadPostId = some id → id ∈ s.messages ∧
      (s.afterPassMessage pass page postId result).channel.lastReadPostId ≠ none := by
    intro id hid
    rcases hread with ⟨-, hsame⟩ | ⟨-, hnew, hwritten, -⟩
    · obtain ⟨hexists, hstored⟩ := hshape.lastRead_exists id (hsame ▸ hid)
      exact ⟨hexists, hc.lastRead_ne_none hstored⟩
    rw [hnew] at hid
    cases hid
    exact ⟨hmem, ne_none_of_eq_some hwritten⟩
  have hcompleted : pass.isInitial = true →
      (s.afterPassMessage pass page postId result).channel.initialCatchupCompleted =
        s.channel.initialCatchupCompleted :=
    fun hinitial => hshape.completed_written hinitial hmoved.move.completed
  constructor
  · exact h.sorted
  · exact hc.observed_exists hmem h.observed_exists
  · exact h.events_exist
  · exact hc.lastRead_exists hmem h.lastRead_exists
  · exact hc.history_exists hmem h.history_exists
  · intro hnot hnone
    rcases hcursor with ⟨hkept, -⟩ | ⟨hinitial, hnew, -, hbelow⟩
    · refine hkept.trans (h.anchored ?_ ?_)
      · by_contra hdone
        rw [hc.completed (by simpa using hdone)] at hnot
        cases hnot
      · by_contra hstored
        exact hc.lastRead_ne_none hstored hnone
    rcases hmoved.history_eq_or with hsame | hat
    · exact absurd (hbelow postId (hsame ▸ hnew)) (Nat.lt_irrefl _)
    · obtain ⟨id, hid, -⟩ := hat.lastRead rfl
      exact absurd hnone (hlastRead id hid).2
  · intro next hnext
    simp only [CrawlState.afterPassMessage] at hnext
    split at hnext
    · next hgoesOn =>
      cases hnext
      refine ⟨rfl, rfl, id, hlastRead, ?_, ?_, ?_⟩
      · intro hinitial
        obtain ⟨hstored, hcopy, hequal⟩ := hshape.initial hinitial
        refine ⟨(hcompleted hinitial).trans hstored, hmoved.move.completed.trans hcopy, ?_⟩
        rcases hcursor with ⟨hkept, hsame⟩ | ⟨-, hnew, hwritten, -⟩
        · exact hsame.trans (hequal.trans hkept.symm)
        · exact hnew.trans hwritten.symm
      · intro hinitial hnone
        obtain ⟨id, hid, -⟩ := (hmoved.cursorsAt hgoesOn hinitial).lastRead rfl
        exact absurd (hid.symm.trans hnone) (Option.some_ne_none _)
      · intro page' hpage'
        cases hpage'
        refine (hshape.page page hpage).next hpending hmoved.move hc ?_ ?_ ?_ <;> rfl
    all_goals cases hnext
  · intro older holder
    have hold := h.older older holder
    refine hc.olderShape hold ?_
    cases hinitial : pass.isInitial with
    | false => rfl
    | true =>
      have hnot := (hshape.initial hinitial).1
      rw [hold.completed.1] at hnot
      cases hnot

theorem CrawlShape.olderMessage {older : OlderPass} {postId : PostId}
    {result : MessageRows × MessageEnd} (holder : s.older = some older)
    (hpending : older.pending = postId :: rest)
    (hmoved : PageMove false true postId older.channel result) :
    CrawlShape (s.afterOlderMessage older postId result) := by
  have hshape := h.older older holder
  have hmem : postId ∈ s.messages := hshape.exist postId (hpending ▸ List.mem_cons_self)
  have hc : Committed s (s.afterOlderMessage older postId result) false true postId :=
    hmoved.move.committed rfl rfl id rfl rfl rfl
  constructor
  · exact h.sorted
  · exact hc.observed_exists hmem h.observed_exists
  · exact h.events_exist
  · exact hc.lastRead_exists hmem h.lastRead_exists
  · exact hc.history_exists hmem h.history_exists
  · intro hnot
    rw [hc.completed hshape.completed.1] at hnot
    cases hnot
  · intro pass hpass
    have hold := h.pass pass hpass
    refine hc.passShape hold fun hinitial => ?_
    have hnot := (hold.initial hinitial).1
    rw [hshape.completed.1] at hnot
    cases hnot
  intro next hnext
  simp only [CrawlState.afterOlderMessage] at hnext
  split at hnext
  · next hgoesOn =>
    cases hnext
    obtain ⟨-, hcursor⟩ := hmoved.move.writeBack s.channel rfl rfl
    obtain ⟨boundary, hboundary, hbelow, hcomplete⟩ := hshape.below
    obtain ⟨id, hid, hle⟩ := (hmoved.cursorsAt hgoesOn rfl).history rfl
    have hlt : postId < boundary := hbelow postId (hpending ▸ List.mem_cons_self)
    have hsorted : (postId :: rest).Pairwise (· > ·) := hpending ▸ hshape.sorted
    obtain ⟨hnew, hwritten⟩ : result.1.channel.historyCursorPostId = some postId ∧
        (s.afterOlderMessage older postId result).channel.historyCursorPostId = some postId := by
      rcases hcursor with ⟨-, hsame⟩ | ⟨-, hnew, hwritten, -⟩
      · rw [hsame, hshape.history_eq, hboundary] at hid
        cases hid
        exact absurd hlt (Nat.not_lt.mpr hle)
      · exact ⟨hnew, hwritten⟩
    refine ⟨⟨hc.completed hshape.completed.1, hmoved.move.completed.trans hshape.completed.2⟩,
      hnew.trans hwritten.symm, ?_, ?_, postId, hwritten, ?_, ?_⟩
    all_goals simp only [hpending, List.tail_cons]
    · exact hsorted.of_cons
    · intro m hm
      exact hshape.exist m (hpending ▸ List.mem_cons_of_mem _ hm)
    · exact (List.pairwise_cons.mp hsorted).1
    rintro m hm hmlt ⟨next, hnext, hgt⟩
    have hwaiting := hcomplete m hm (Nat.lt_trans hmlt hlt)
      ⟨next, hpending ▸ List.mem_cons_of_mem _ hnext, hgt⟩
    rw [hpending] at hwaiting
    rcases List.mem_cons.mp hwaiting with rfl | hrest
    · exact absurd hmlt (Nat.lt_irrefl _)
    · exact hrest
  all_goals cases hnext

theorem CrawlShape.frame (hmessages : t.messages = s.messages)
    (hposts : t.posts = s.posts) (hlastRead : t.channel.lastReadPostId = s.channel.lastReadPostId)
    (hhistory : t.channel.historyCursorPostId = s.channel.historyCursorPostId)
    (hcompleted : s.channel.initialCatchupCompleted = true →
      t.channel.initialCatchupCompleted = true)
    (hevents : ∀ listener, t.listener = some listener →
      ∀ m ∈ listener.events, m ∈ s.messages)
    (hpass : ∀ pass, t.pass = some pass → PassShape s pass ∧
      t.channel.initialCatchupCompleted = s.channel.initialCatchupCompleted)
    (holder : ∀ older, t.older = some older → OlderShape s older) : CrawlShape t where
  sorted := hmessages ▸ h.sorted
  observed_exists m hm := by
    rw [CrawlState.Observed, hposts] at hm
    exact hmessages ▸ h.observed_exists m hm
  events_exist := hmessages ▸ hevents
  lastRead_exists := by
    rw [hlastRead, hmessages]
    exact h.lastRead_exists
  history_exists := by
    rw [hhistory, hmessages]
    exact h.history_exists
  anchored hnot hnone := by
    rw [hhistory]
    refine h.anchored ?_ (hlastRead ▸ hnone)
    by_contra hdone
    rw [hcompleted (by simpa using hdone)] at hnot
    cases hnot
  pass pass hmem := by
    obtain ⟨hshape, hsame⟩ := hpass pass hmem
    refine hshape.frame hmessages ?_ (fun hsome => hlastRead ▸ hsome) fun _ => ⟨hsame, hhistory⟩
    intro m hm
    rw [CrawlState.Observed, hposts]
    exact hm
  older older hmem := (holder older hmem).frame hmessages hcompleted hhistory

theorem CrawlShape.openPage (hstep : s.openPage = some t) : CrawlShape t := by
  obtain ⟨pass, hpass, -, rfl⟩ := openPage_eq_some hstep
  have hshape := h.pass pass hpass
  refine h.frame rfl rfl rfl rfl id h.events_exist ?_ h.older
  intro next hnext
  cases hnext
  refine ⟨⟨hshape.lastRead_eq, hshape.history_eq, hshape.completed_le, hshape.lastRead_exists,
    hshape.initial, hshape.anchored, ?_⟩, rfl⟩
  intro page hpage
  cases hpage
  cases hinitial : pass.isInitial with
  | true =>
    simp only [if_true]
    refine ⟨h.sorted.sublist (List.drop_sublist ..), fun m hm => List.mem_of_mem_drop hm,
      (fun hforward => nomatch hforward), (fun hforward => nomatch hforward), ?_⟩
    rintro - m hm - ⟨next, hnext, hlt⟩
    exact .inl (mem_drop_of_rel lt_asymm_id h.sorted hnext hm hlt)
  | false =>
    simp only [Bool.false_eq_true, if_false]
    refine ⟨sorted_forwardWindow h.sorted _, fun m hm => (mem_forwardWindow hm).1,
      fun _ m hm => (mem_forwardWindow hm).2, ?_, fun hinitial => nomatch hinitial⟩
    intro _ m hm habove hnext
    exact .inl (forwardWindow_complete h.sorted hm habove hnext)

theorem CrawlShape.closePass {pass : CatchUpPass} {channel : CrawledChannel}
    (hpass : s.pass = some pass)
    (hlastRead : channel.lastReadPostId = pass.channel.lastReadPostId)
    (hhistory : channel.historyCursorPostId = pass.channel.historyCursorPostId)
    (hcompleted : channel.initialCatchupCompleted = pass.channel.initialCatchupCompleted) :
    CrawlShape { s with
      channel := CrawledChannel.writeBack pass.loaded channel s.channel
      pass := none } := by
  have hshape := h.pass pass hpass
  have hstored : s.channel.initialCatchupCompleted = true →
      (CrawledChannel.writeBack pass.loaded channel s.channel).initialCatchupCompleted = true :=
    completed_writeBack (hcompleted ▸ hshape.completed_le)
  have hcursor : (CrawledChannel.writeBack pass.loaded channel s.channel).historyCursorPostId =
      s.channel.historyCursorPostId :=
    history_writeBack_of_eq (hhistory.trans hshape.history_eq.symm)
  refine h.frame rfl rfl ?_ hcursor hstored h.events_exist (fun _ hnone => nomatch hnone) h.older
  exact lastRead_writeBack_of_eq (hlastRead.trans hshape.lastRead_eq.symm)

theorem CrawlShape.dropPass : CrawlShape { s with pass := none } :=
  h.frame rfl rfl rfl rfl id h.events_exist (fun _ hnone => nomatch hnone) h.older

theorem CrawlShape.endPage (hstep : s.endPage now = some t) : CrawlShape t := by
  obtain ⟨pass, page, hpass, hpage, -, hend⟩ := endPage_eq_some hstep
  have hshape := h.pass pass hpass
  cases hend with
  | completed hinitial =>
    refine h.frame rfl rfl rfl rfl id h.events_exist ?_ h.older
    intro next hnext
    cases hnext
    exact ⟨⟨hshape.lastRead_eq, hshape.history_eq, fun _ => rfl, hshape.lastRead_exists,
      (fun hfalse => nomatch hfalse), (fun hfalse => nomatch hfalse),
      fun _ hnone => nomatch hnone⟩, rfl⟩
  | finished hforward => exact h.closePass hpass rfl rfl rfl
  | continued hforward =>
    refine h.frame rfl rfl rfl rfl id h.events_exist ?_ h.older
    intro next hnext
    cases hnext
    exact ⟨⟨hshape.lastRead_eq, hshape.history_eq, hshape.completed_le, hshape.lastRead_exists,
      (fun hfalse => nomatch hfalse), (fun hfalse => nomatch hfalse),
      fun _ hnone => nomatch hnone⟩, rfl⟩

theorem CrawlShape.interruptPass {commits : Bool}
    (hstep : s.interruptPass commits = some t) : CrawlShape t := by
  obtain ⟨pass, hpass, rfl⟩ := interruptPass_eq_some hstep
  cases commits with
  | true => exact h.closePass hpass rfl rfl rfl
  | false => exact h.dropPass

theorem CrawlShape.startPass (limit : Nat) :
    CrawlShape { s with
      pass := some {
        loaded := s.channel
        channel := s.channel
        limit := limit
        isInitial := !s.channel.initialCatchupCompleted } } := by
  refine h.frame rfl rfl rfl rfl id h.events_exist ?_ h.older
  intro next hnext
  cases hnext
  refine ⟨⟨rfl, rfl, id, ?_, ?_, ?_, fun _ hnone => nomatch hnone⟩, rfl⟩
  · intro id hid
    exact ⟨h.lastRead_exists id hid, ne_none_of_eq_some hid⟩
  · intro hinitial
    have hnot : s.channel.initialCatchupCompleted = false := by simpa using hinitial
    exact ⟨hnot, hnot, rfl⟩
  · intro hinitial hnone
    exact h.anchored (by simpa using hinitial) hnone

theorem CrawlShape.startOlder {limit : Nat}
    (hstep : s.startOlder limit = some t) : CrawlShape t := by
  obtain ⟨-, hcompleted, boundary, hboundary, rfl⟩ := startOlder_eq_some hstep
  refine h.frame rfl rfl rfl rfl id h.events_exist (fun pass hpass => ⟨h.pass pass hpass, rfl⟩) ?_
  intro next hnext
  cases hnext
  exact ⟨⟨hcompleted, hcompleted⟩, rfl, sorted_olderWindow h.sorted boundary,
    fun m hm => (mem_olderWindow hm).1, boundary, hboundary, fun m hm => (mem_olderWindow hm).2,
    fun m hm hlt hnext => olderWindow_complete h.sorted hm hlt hnext⟩

theorem CrawlShape.endOlder (hstep : s.endOlder now = some t) : CrawlShape t := by
  obtain ⟨older, holder, rfl⟩ := endOlder_eq_some hstep
  have hcompleted : (CrawledChannel.writeBack older.channel { older.channel with
      lastFetchedAt := some now
      historyExhausted := decide (older.scanned < older.limit) ||
        older.channel.historyExhausted } s.channel).initialCatchupCompleted =
          s.channel.initialCatchupCompleted := completed_writeBack_of_eq rfl
  refine h.frame rfl rfl (lastRead_writeBack_of_eq rfl) (history_writeBack_of_eq rfl)
    (fun hstored => hcompleted.trans hstored) h.events_exist ?_ (fun _ hnone => nomatch hnone)
  intro pass hpass
  exact ⟨h.pass pass hpass, hcompleted⟩

theorem CrawlShape.step {label : CrawlLabel}
    (hstep : crawlStep s label = some t) : CrawlShape t := by
  have hpasses : ∀ pass, s.pass = some pass → PassShape s pass ∧
      s.channel.initialCatchupCompleted = s.channel.initialCatchupCompleted :=
    fun pass hpass => ⟨h.pass pass hpass, rfl⟩
  cases label with
  | appear postId =>
    obtain ⟨hnew, heq⟩ := Option.ite_none_right_eq_some.mp hstep
    cases heq
    exact h.appear hnew
  | startListener =>
    cases hstep
    refine h.frame rfl rfl rfl rfl id ?_ hpasses h.older
    intro listener hlistener
    cases hlistener
    intro m hm
    cases hm
  | reloadListener =>
    cases hstep
    refine h.frame rfl rfl rfl rfl id ?_ hpasses h.older
    intro listener hlistener
    obtain ⟨old, hold, rfl⟩ := Option.map_eq_some_iff.mp hlistener
    exact h.events_exist old hold
  | stopListener =>
    cases hstep
    exact h.frame rfl rfl rfl rfl id (fun _ hnone => nomatch hnone) hpasses h.older
  | live postId answers now =>
    obtain ⟨listener, hlistener, hevent, rfl⟩ := live_eq_some hstep
    exact h.live hlistener hevent
  | startPass limit =>
    obtain ⟨-, heq⟩ := Option.ite_none_right_eq_some.mp hstep
    cases heq
    exact h.startPass limit
  | openPage => exact h.openPage hstep
  | passMessage answers now =>
    obtain ⟨pass, page, postId, rest, hpass, hpage, hpending, rfl⟩ := passMessage_eq_some hstep
    exact h.passMessage hpass hpage hpending catchUpMessage_pageMove
  | endPage now => exact h.endPage hstep
  | interruptPass commits => exact h.interruptPass hstep
  | startOlder limit => exact h.startOlder hstep
  | olderMessage answers now =>
    obtain ⟨older, postId, rest, holder, hpending, rfl⟩ := olderMessage_eq_some hstep
    exact h.olderMessage holder hpending catchUpMessage_pageMove
  | endOlder now => exact h.endOlder hstep
  | interruptOlder =>
    cases hstep
    exact h.frame rfl rfl rfl rfl id h.events_exist hpasses (fun _ hnone => nomatch hnone)

end Kept

end Steps

theorem CrawlShape.fresh {messages : List PostId} (hsorted : messages.Pairwise (· < ·)) :
    CrawlShape { messages := messages } where
  sorted := hsorted
  observed_exists _ hm := nomatch hm
  events_exist _ hnone := nomatch hnone
  lastRead_exists _ hnone := nomatch hnone
  history_exists _ hnone := nomatch hnone
  anchored _ _ := rfl
  pass _ hnone := nomatch hnone
  older _ hnone := nomatch hnone

end MemeExpert.Crawlers
