import MemeExpert.Crawlers.SourcePosts

/-! The live listener, the pages of the crawl and the operator's metadata backfill write the
same columns of a post, each with a message that was fetched before. -/

namespace MemeExpert.Crawlers

/-- `TELEGRAM_POST_METADATA_VERSION`. -/
def telegramPostMetadataVersion : Nat := 1

/-- `TelegramPostMetadata`, its entities as the JSON that is stored. -/
structure TelegramPostMetadata (ε : Type) where
  schemaVersion : Nat := telegramPostMetadataVersion
  schemaVersion_eq : schemaVersion = telegramPostMetadataVersion := by rfl
  text : Option String := none
  textEntities : List ε := []
  mediaGroupId : Option String := none
  replyToPostId : Option String := none
  editedAt : Option Time := none

/-- `state` numbers the states of the provider; the message was read at this one. -/
structure FetchedMessage (ε : Type) where
  messageId : PostId
  channelId : String
  telegramPost : TelegramPostMetadata ε
  state : Nat

/-- The columns of a `SourceChannelPost` that metadata is captured in. -/
structure PostMetadataRow (ε : Type) where
  firstObservedText : Option String := none
  latestText : Option String := none
  firstObservedTextEntities : Option (List ε) := none
  latestTextEntities : Option (List ε) := none
  mediaGroupId : Option String := none
  replyToPostId : Option String := none
  telegramEditedAt : Option Time := none
  metadataFirstObservedAt : Option Time := none
  metadataLastObservedAt : Option Time := none
  metadataVersion : Nat := 0
  isDeleted : Bool := false
  deletionObservedAt : Option Time := none

/-- The posts of a channel. -/
abbrev MetadataTable (ε : Type) := PostId → Option (PostMetadataRow ε)

section Writes

variable {ε : Type}

/-- `_capture_metadata`, which the inserts of the two upserts agree with. -/
def captureMetadata (metadata : TelegramPostMetadata ε) (observedAt : Time) :
    PostMetadataRow ε where
  firstObservedText := metadata.text
  latestText := metadata.text
  firstObservedTextEntities := some metadata.textEntities
  latestTextEntities := some metadata.textEntities
  mediaGroupId := metadata.mediaGroupId
  replyToPostId := metadata.replyToPostId
  telegramEditedAt := metadata.editedAt
  metadataFirstObservedAt := some observedAt
  metadataLastObservedAt := some observedAt
  metadataVersion := metadata.schemaVersion
  isDeleted := false
  deletionObservedAt := none

/-- The metadata columns of the upserts `_observe_post` and `_refresh_post_metadata_only`. -/
def upsertMetadata (metadata : TelegramPostMetadata ε) (observedAt : Time) :
    Option (PostMetadataRow ε) → PostMetadataRow ε
  | none => captureMetadata metadata observedAt
  | some row =>
    let excluded := captureMetadata metadata observedAt
    let uncaptured := row.metadataVersion < metadata.schemaVersion
    { excluded with
      firstObservedText := if uncaptured then excluded.firstObservedText else row.firstObservedText
      firstObservedTextEntities :=
        if uncaptured then excluded.firstObservedTextEntities else row.firstObservedTextEntities
      metadataFirstObservedAt :=
        if uncaptured then excluded.metadataFirstObservedAt else row.metadataFirstObservedAt }

def observePostMetadata (message : FetchedMessage ε) (fetchedAt : Time)
    (posts : MetadataTable ε) : MetadataTable ε :=
  Function.update posts message.messageId
    (some (upsertMetadata message.telegramPost fetchedAt (posts message.messageId)))

def refreshPostMetadataOnly (message : FetchedMessage ε) (observedAt : Time)
    (posts : MetadataTable ε) : MetadataTable ε :=
  Function.update posts message.messageId
    (some (upsertMetadata message.telegramPost observedAt (posts message.messageId)))

def PostMetadataRow.markDeleted (row : PostMetadataRow ε) (observedAt : Time) : PostMetadataRow ε :=
  { row with isDeleted := true, deletionObservedAt := some observedAt }

/-- `_mark_posts_deleted`: only known posts. -/
def markPostsDeleted (postIds : List PostId) (observedAt : Time) (posts : MetadataTable ε) :
    MetadataTable ε := fun postId =>
  if postId ∈ postIds then (posts postId).map (·.markDeleted observedAt) else posts postId

/-- `_FetchedBatch`, without the ids that are only counted. -/
structure FetchedBatch (ε : Type) where
  messages : PostId → Option (FetchedMessage ε)
  missingPostIds : List PostId

/-- `_normalize_fetched_batch` of the answers that the provider gave for the candidates; a row
is named by its post here, for the two ids determine each other. -/
def normalizeFetchedBatch (channelId : String) (candidates : List PostId)
    (rawResults : PostId → Option (Option (FetchedMessage ε))) : FetchedBatch ε where
  messages postId :=
    if postId ∈ candidates then
      match rawResults postId with
      | some (some message) =>
        if message.messageId ≠ postId ∨ message.channelId ≠ channelId then none else some message
      | _ => none
    else none
  missingPostIds := candidates.filter fun postId => (rawResults postId).any (·.isNone)

/-- What `_apply_batch` makes of a row that is no longer uncaptured, or of one that is. -/
def applyFetched (fetched : FetchedBatch ε) (observedAt : Time) (postId : PostId)
    (row : PostMetadataRow ε) : PostMetadataRow ε :=
  if row.metadataVersion ≥ telegramPostMetadataVersion then row
  else
    match fetched.messages postId with
    | some message => captureMetadata message.telegramPost observedAt
    | none => if postId ∈ fetched.missingPostIds then row.markDeleted observedAt else row

/-- `_apply_batch`. -/
def applyBatch (candidates : List PostId) (fetched : FetchedBatch ε) (observedAt : Time)
    (posts : MetadataTable ε) : MetadataTable ε := fun postId =>
  if postId ∈ candidates then (posts postId).map (applyFetched fetched observedAt postId)
  else posts postId

/-- A write that commits. Catch-up and older pages observe posts as new live messages do. What
is reported as deleted or missing carries the state of the provider at the report. -/
inductive MetadataWrite (ε : Type) where
  | observe (message : FetchedMessage ε) (fetchedAt : Time)
  | edited (message : FetchedMessage ε) (observedAt : Time)
  | deleted (postIds : List PostId) (state : Nat) (observedAt : Time)
  | backfill (channelId : String) (candidates : List PostId)
      (rawResults : PostId → Option (Option (FetchedMessage ε))) (state : Nat) (observedAt : Time)

def MetadataWrite.apply (posts : MetadataTable ε) : MetadataWrite ε → MetadataTable ε
  | observe message fetchedAt => observePostMetadata message fetchedAt posts
  | edited message observedAt => refreshPostMetadataOnly message observedAt posts
  | deleted postIds _ observedAt => markPostsDeleted postIds observedAt posts
  | backfill channelId candidates rawResults _ observedAt =>
    applyBatch candidates (normalizeFetchedBatch channelId candidates rawResults) observedAt posts

/-- The table after the writes, in the order of their commits. -/
def committed (posts : MetadataTable ε) (writes : List (MetadataWrite ε)) : MetadataTable ε :=
  writes.foldl MetadataWrite.apply posts

end Writes


section Touches

variable {ε : Type}

inductive Touch (ε : Type) where
  | captured (message : FetchedMessage ε)
  | deleted (state : Nat)

/-- The state of the provider that a write is about. -/
def Touch.state : Touch ε → Nat
  | captured message => message.state
  | deleted state => state

def Touch.message : Touch ε → Option (FetchedMessage ε)
  | captured message => some message
  | deleted _ => none

def MetadataWrite.touch (posts : MetadataTable ε) (postId : PostId) :
    MetadataWrite ε → Option (Touch ε)
  | observe message _ | edited message _ =>
    if message.messageId = postId then some (.captured message) else none
  | deleted postIds state _ =>
    if postId ∈ postIds ∧ (posts postId).isSome then some (.deleted state) else none
  | backfill channelId candidates rawResults state _ =>
    (posts postId).bind fun row =>
      if postId ∉ candidates ∨ row.metadataVersion ≥ telegramPostMetadataVersion then none
      else
        let fetched := normalizeFetchedBatch channelId candidates rawResults
        match fetched.messages postId with
        | some message => some (.captured message)
        | none => if postId ∈ fetched.missingPostIds then some (.deleted state) else none

/-- The writes that touch a post, in the order of their commits. -/
def touches (postId : PostId) : MetadataTable ε → List (MetadataWrite ε) → List (Touch ε)
  | _, [] => []
  | posts, write :: writes =>
    (write.touch posts postId).toList ++ touches postId (write.apply posts) writes

variable {posts : MetadataTable ε} {postId : PostId} {row : PostMetadataRow ε}

theorem upsertMetadata_of_uncaptured (metadata : TelegramPostMetadata ε) (observedAt : Time)
    (hrow : row.metadataVersion < telegramPostMetadataVersion) :
    upsertMetadata metadata observedAt (some row) = captureMetadata metadata observedAt := by
  have hversion : row.metadataVersion < metadata.schemaVersion := by
    rwa [metadata.schemaVersion_eq]
  simp only [upsertMetadata, if_pos hversion]

/-- A write leaves the row alone, captures a message, or marks a known post deleted. -/
theorem MetadataWrite.apply_cases (write : MetadataWrite ε) (posts : MetadataTable ε)
    (postId : PostId) :
    (write.touch posts postId = none ∧ write.apply posts postId = posts postId) ∨
      (∃ message observedAt, write.touch posts postId = some (.captured message) ∧
        write.apply posts postId =
          some (upsertMetadata message.telegramPost observedAt (posts postId))) ∨
      ∃ state observedAt row, write.touch posts postId = some (.deleted state) ∧
        posts postId = some row ∧ write.apply posts postId = some (row.markDeleted observedAt) := by
  cases write with
  | observe message now | edited message now =>
    by_cases hpost : message.messageId = postId
    · subst hpost
      exact .inr (.inl ⟨message, now, if_pos rfl, Function.update_self ..⟩)
    · exact .inl ⟨if_neg hpost, Function.update_of_ne (Ne.symm hpost) ..⟩
  | deleted postIds state now =>
    simp only [touch, apply, markPostsDeleted]
    cases hrow : posts postId with
    | none => simp
    | some row =>
      by_cases hmem : postId ∈ postIds
      · exact .inr (.inr ⟨state, now, row, by simp [hmem], rfl, by simp [hmem]⟩)
      · simp [hmem]
  | backfill channelId candidates rawResults state now =>
    simp only [touch, apply, applyBatch]
    cases hrow : posts postId with
    | none => simp
    | some row =>
      by_cases hmem : postId ∉ candidates
      · simp [hmem]
      have hmem := not_not.mp hmem
      by_cases hversion : telegramPostMetadataVersion ≤ row.metadataVersion
      · simp [hmem, hversion, applyFetched]
      simp only [hmem, hversion, applyFetched, if_true, if_false, Option.map_some,
        Option.bind_some, not_true_eq_false, false_or, ge_iff_le]
      split
      · next message hmessage =>
        refine .inr (.inl ⟨message, now, rfl, ?_⟩)
        rw [upsertMetadata_of_uncaptured _ _ (Nat.lt_of_not_le hversion)]
      · split
        · exact .inr (.inr ⟨state, now, row, rfl, rfl, rfl⟩)
        · exact .inl ⟨rfl, rfl⟩

structure TellsTouches (past : List (Touch ε)) (row : Option (PostMetadataRow ε)) : Prop where
  known : row = none → past = []
  version : ∀ r, row = some r →
    r.metadataVersion =
      if past.filterMap Touch.message = [] then 0 else telegramPostMetadataVersion
  first : ∀ r, row = some r → ∀ message, (past.filterMap Touch.message).head? = some message →
    r.firstObservedText = message.telegramPost.text
  latest : ∀ r, row = some r → ∀ message, (past.filterMap Touch.message).getLast? = some message →
    r.latestText = message.telegramPost.text
  marker : ∀ r, row = some r → ∀ touch, past.getLast? = some touch →
    (r.isDeleted = true ↔ touch.message = none)

theorem tellsTouches_nil (huncaptured : ∀ row, posts postId = some row → row.metadataVersion = 0) :
    TellsTouches [] (posts postId) where
  known _ := rfl
  version r hr := (huncaptured r hr).trans (if_pos rfl).symm
  first _ _ _ hnone := nomatch hnone
  latest _ _ _ hnone := nomatch hnone
  marker _ _ _ hnone := nomatch hnone

theorem TellsTouches.captured {past : List (Touch ε)} {row : Option (PostMetadataRow ε)}
    (h : TellsTouches past row) (message : FetchedMessage ε) (observedAt : Time) :
    TellsTouches (past ++ [.captured message])
      (some (upsertMetadata message.telegramPost observedAt row)) := by
  have hcaptures : (past ++ [Touch.captured message]).filterMap Touch.message =
      past.filterMap Touch.message ++ [message] := List.filterMap_append
  refine ⟨nofun, ?_, ?_, ?_, ?_⟩
  · rintro r ⟨rfl⟩
    rw [hcaptures, if_neg (by simp)]
    cases row <;> exact message.telegramPost.schemaVersion_eq
  · rintro r ⟨rfl⟩ head hhead
    rw [hcaptures] at hhead
    cases hpast : past.filterMap Touch.message with
    | nil =>
      rw [hpast] at hhead
      obtain rfl := Option.some.inj hhead
      cases row with
      | none => rfl
      | some r =>
        have hversion := h.version r rfl
        rw [if_pos hpast] at hversion
        rw [upsertMetadata_of_uncaptured _ _ (hversion ▸ Nat.one_pos)]
        rfl
    | cons one others =>
      rw [hpast] at hhead
      cases row with
      | none =>
        rw [h.known rfl] at hpast
        cases hpast
      | some r =>
        have hversion := h.version r rfl
        rw [hpast, if_neg (by simp)] at hversion
        have hcaptured : ¬ r.metadataVersion < message.telegramPost.schemaVersion := by
          rw [hversion, message.telegramPost.schemaVersion_eq]
          exact Nat.lt_irrefl _
        simp only [upsertMetadata, if_neg hcaptured]
        exact h.first r rfl head (by rw [hpast]; exact hhead)
  · rintro r ⟨rfl⟩ last hlast
    rw [hcaptures, List.getLast?_concat] at hlast
    obtain rfl := Option.some.inj hlast
    cases row <;> rfl
  · rintro r ⟨rfl⟩ touch htouch
    rw [List.getLast?_concat] at htouch
    obtain rfl := Option.some.inj htouch
    cases row <;> simp [upsertMetadata, captureMetadata, Touch.message]

theorem TellsTouches.deleted {past : List (Touch ε)} (h : TellsTouches past (some row))
    (state : Nat) (observedAt : Time) :
    TellsTouches (past ++ [.deleted state]) (some (row.markDeleted observedAt)) := by
  have hcaptures : (past ++ [Touch.deleted state]).filterMap Touch.message =
      past.filterMap Touch.message := by
    simp [List.filterMap_append, Touch.message]
  refine ⟨nofun, ?_, ?_, ?_, ?_⟩
  · rintro r ⟨rfl⟩
    rw [hcaptures]
    exact h.version row rfl
  · rintro r ⟨rfl⟩
    rw [hcaptures]
    exact h.first row rfl
  · rintro r ⟨rfl⟩
    rw [hcaptures]
    exact h.latest row rfl
  rintro r ⟨rfl⟩ touch htouch
  rw [List.getLast?_concat] at htouch
  obtain rfl := Option.some.inj htouch
  exact ⟨fun _ => rfl, fun _ => rfl⟩

theorem TellsTouches.write {past : List (Touch ε)} (h : TellsTouches past (posts postId))
    (write : MetadataWrite ε) :
    TellsTouches (past ++ (write.touch posts postId).toList) (write.apply posts postId) := by
  obtain ⟨htouch, happly⟩ | ⟨message, now, htouch, happly⟩ |
    ⟨state, now, row, htouch, hrow, happly⟩ := write.apply_cases posts postId
  · rw [htouch, happly]
    simpa using h
  · rw [htouch, happly]
    exact h.captured message now
  · rw [htouch, happly]
    exact (hrow ▸ h).deleted state now

theorem TellsTouches.committed {past : List (Touch ε)} (h : TellsTouches past (posts postId))
    (writes : List (MetadataWrite ε)) :
    TellsTouches (past ++ touches postId posts writes) (committed posts writes postId) := by
  induction writes generalizing past posts with
  | nil => simpa [touches, Crawlers.committed] using h
  | cons write writes ih =>
    have hnext := ih (h.write write)
    rwa [List.append_assoc] at hnext

/-- The text is the first one captured and that of a most recent state of the provider, and
a deletion is undone only by a message that was not fetched before it. -/
structure NeverBack (past : List (Touch ε)) (row : PostMetadataRow ε) : Prop where
  first : ∀ message, (past.filterMap Touch.message).head? = some message →
    row.firstObservedText = message.telegramPost.text
  latest : past.filterMap Touch.message ≠ [] → ∃ message ∈ past.filterMap Touch.message,
    (∀ other ∈ past.filterMap Touch.message, other.state ≤ message.state) ∧
      row.latestText = message.telegramPost.text
  deleted : ∀ state, .deleted state ∈ past → row.isDeleted = false →
    ∃ message ∈ past.filterMap Touch.message, state ≤ message.state

theorem state_le_of_getLast? {past : List (Touch ε)}
    (hordered : past.Pairwise fun a b => a.state ≤ b.state) {last : Touch ε}
    (hlast : past.getLast? = some last) : ∀ touch ∈ past, touch.state ≤ last.state := by
  obtain ⟨before, rfl⟩ := List.getLast?_eq_some_iff.mp hlast
  intro touch htouch
  rcases List.mem_append.mp htouch with hbefore | htouch
  · exact (List.pairwise_append.mp hordered).2.2 touch hbefore last List.mem_cons_self
  · exact List.mem_singleton.mp htouch ▸ Nat.le_refl _

theorem mem_messages {past : List (Touch ε)} {message : FetchedMessage ε} :
    message ∈ past.filterMap Touch.message ↔ .captured message ∈ past := by
  rw [List.mem_filterMap]
  constructor
  · rintro ⟨touch, htouch, hmessage⟩
    cases touch with
    | captured other =>
      obtain rfl := Option.some.inj hmessage
      exact htouch
    | deleted state => cases hmessage
  · intro hmem
    exact ⟨_, hmem, rfl⟩

/-- Where the commits follow the states of the provider, nothing goes back in time. -/
theorem TellsTouches.neverBack {past : List (Touch ε)} {row : PostMetadataRow ε}
    (h : TellsTouches past (some row))
    (hordered : past.Pairwise fun a b => a.state ≤ b.state) : NeverBack past row := by
  refine ⟨h.first row rfl, ?_, ?_⟩
  · intro hcaptures
    have hlast := List.getLast?_eq_some_getLast hcaptures
    have hmessages : (past.filterMap Touch.message).Pairwise fun a b => a.state ≤ b.state := by
      refine hordered.filterMap _ ?_
      rintro (a | a) (b | b) hle <;> simp_all [Touch.message, Touch.state]
    refine ⟨_, List.getLast_mem hcaptures, ?_, h.latest row rfl _ hlast⟩
    intro other hother
    obtain ⟨before, hpast⟩ := List.getLast?_eq_some_iff.mp hlast
    rw [hpast] at hmessages hother
    rcases List.mem_append.mp hother with hbefore | hother
    · exact (List.pairwise_append.mp hmessages).2.2 other hbefore _ List.mem_cons_self
    · exact List.mem_singleton.mp hother ▸ Nat.le_refl _
  · intro state hstate hkept
    cases hlast : past.getLast? with
    | none =>
      rw [List.getLast?_eq_none_iff.mp hlast] at hstate
      cases hstate
    | some last =>
      have hmarker := h.marker row rfl last hlast
      cases last with
      | deleted later =>
        rw [hmarker.mpr rfl] at hkept
        cases hkept
      | captured message =>
        exact ⟨message, mem_messages.mpr (List.mem_of_getLast? hlast),
          state_le_of_getLast? hordered hlast _ hstate⟩

/-- The commits decide: the first text is that of the first capture, the latest text that of the
last one, and the marker is what the last write that touched the post says. -/
theorem metadata_follows_commits {posts : MetadataTable ε} {postId : PostId}
    (huncaptured : ∀ row, posts postId = some row → row.metadataVersion = 0)
    (writes : List (MetadataWrite ε)) :
    let past := touches postId posts writes
    ∀ row, committed posts writes postId = some row →
      (∀ message, (past.filterMap Touch.message).head? = some message →
        row.firstObservedText = message.telegramPost.text) ∧
      (∀ message, (past.filterMap Touch.message).getLast? = some message →
        row.latestText = message.telegramPost.text) ∧
      (∀ touch, past.getLast? = some touch → (row.isDeleted = true ↔ touch.message = none)) ∧
      ((past.Pairwise fun a b => a.state ≤ b.state) → NeverBack past row) := by
  intro past row hrow
  have htells : TellsTouches past (some row) := by
    have hcommitted := (tellsTouches_nil huncaptured).committed writes
    rwa [hrow] at hcommitted
  exact ⟨htells.first row rfl, htells.latest row rfl, htells.marker row rfl, htells.neverBack⟩

def captionedPost (text : String) (state : Nat) : FetchedMessage Empty :=
  { messageId := 42, channelId := "memes", telegramPost := { text := some text }, state := state }

/-- A new message, its edit and its deletion reach the listener in this order. -/
def inOrder : List (MetadataWrite Empty) :=
  [.observe (captionedPost "first" 1) 10, .edited (captionedPost "edited" 3) 30,
    .deleted [42] 4 40]

theorem metadata_follows_commits_inOrder :
    ∃ row, committed (fun _ => none) inOrder 42 = some row ∧
      row.firstObservedText = some "first" ∧ row.latestText = some "edited" ∧
        row.isDeleted = true ∧ NeverBack (touches 42 (fun _ => none) inOrder) row := by
  refine ⟨_, rfl, ?_⟩
  have huncaptured : ∀ row, (none : Option (PostMetadataRow Empty)) = some row →
      row.metadataVersion = 0 := fun _ hrow => nomatch hrow
  have hordered : (touches 42 (fun _ => none) inOrder).Pairwise
      fun a b => a.state ≤ b.state := by decide
  obtain ⟨hfirst, hlatest, hmarker, hback⟩ :=
    @metadata_follows_commits _ (fun _ => none) 42 huncaptured inOrder _ rfl
  exact ⟨hfirst _ rfl, hlatest _ rfl, (hmarker _ rfl).mpr rfl, hback hordered⟩

/-- A page of the crawl commits the message as it was fetched before the edit. -/
def overtakenPage : List (MetadataWrite Empty) :=
  inOrder ++ [.observe (captionedPost "first" 2) 50]

theorem touches_overtakenPage : touches 42 (fun _ => none) overtakenPage =
    [.captured (captionedPost "first" 1), .captured (captionedPost "edited" 3), .deleted 4,
      .captured (captionedPost "first" 2)] := rfl

theorem overtakenPage_goes_back :
    ∃ row, committed (fun _ => none) overtakenPage 42 = some row ∧
      row.latestText = some "first" ∧ row.isDeleted = false ∧
        ¬ NeverBack (touches 42 (fun _ => none) overtakenPage) row := by
  refine ⟨_, rfl, rfl, rfl, ?_⟩
  intro hback
  rw [touches_overtakenPage] at hback
  obtain ⟨message, hmessage, hstate⟩ := hback.deleted 4 (by simp) rfl
  have hfetched : ∀ other ∈ [captionedPost "first" 1, captionedPost "edited" 3,
      captionedPost "first" 2], other.state < 4 := by decide
  exact Nat.not_lt_of_le hstate (hfetched message hmessage)

end Touches

end MemeExpert.Crawlers
