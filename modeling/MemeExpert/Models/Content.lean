import Mathlib.Data.Rat.Defs
import MemeExpert.Models.Library

/-! The tables that name a meme or a file by a foreign key, with the deletions the schema
cascades. -/

namespace MemeExpert

inductive MemeVisibilityMode where
  | auto | forcePublic | forcePrivate
  deriving DecidableEq

inductive IngestSourceKind where
  | userUpload | publicCrawler | operatorUpload
  deriving DecidableEq

inductive SourcePlatform where
  | reddit | telegram | vk
  deriving DecidableEq

inductive TelegramMediaFormat where
  | animation | photo
  deriving DecidableEq

structure CanonicalMeme extends Meme where
  primaryFileId : Uuid
  visibilityMode : MemeVisibilityMode := .auto
  isNsfw : Bool := false
  tags : List String := []
  ocrText : Option String := none
  templateId : Option Uuid := none
  deriving DecidableEq

/-- A file with the columns its merges read; a score is a finite float. -/
structure CanonicalFile extends MemeFile where
  sha256Hex : Option String := none
  blockedPerceptualHashId : Option Uuid := none
  matchedMemeFileId : Option Uuid := none
  qualityScore : Rat := 0
  createdAt : Time := 0

structure MemeSource where
  id : Uuid
  fileId : Uuid
  platform : SourcePlatform
  sourceId : String
  postId : String
  sourceKind : IngestSourceKind := .operatorUpload
  uploaderUserId : Option Uuid := none
  matchedMemeFileId : Option Uuid := none

structure RequestReferences where
  id : Uuid
  materializedMemeId : Option Uuid := none
  materializedMemeFileId : Option Uuid := none
  matchedMemeFileId : Option Uuid := none

structure MemeFileOCRResult where
  id : Uuid
  memeFileId : Uuid

structure TelegramFileIdCache where
  id : Uuid
  memeFileId : Uuid
  botScope : String
  mediaFormat : TelegramMediaFormat
  telegramFileId : String

structure EmbeddingCache where
  inputHash : String
  sourceFileId : Option Uuid := none

/-- A text in a message payload: the text of an identifier or any other one. -/
inductive PayloadText where
  | id (value : Uuid)
  | text (value : String)
  deriving DecidableEq

structure OutboxReferences where
  id : Uuid
  aggregateType : RabbitAggregateType
  aggregateId : Uuid
  orderingKey : Option Uuid := none
  payload : List (String × PayloadText) := []

inductive ModerationReportStatus where
  | pending | inReview | resolved | dismissed
  deriving DecidableEq

inductive ModerationReason where
  | copyright | harassment | illegal | nsfw | other | spam

inductive ModerationAction where
  | hide | hideAndMarkNsfw | markNsfw | markSfw | noAction | templateOverride | overrideFlags
  | publish
  deriving DecidableEq

structure ModerationReport where
  id : Uuid
  memeId : Uuid
  status : ModerationReportStatus := .pending
  reason : ModerationReason := .other
  resolvedByAdminUserId : Option Uuid := none
  resolvedAt : Option Time := none

structure ModerationDecision where
  id : Uuid
  memeId : Uuid
  reportId : Option Uuid := none
  adminUserId : Option Uuid := none
  action : ModerationAction
  reason : Option ModerationReason := none
  note : Option String := none
  previousIsPublic : Bool
  previousVisibilityMode : MemeVisibilityMode
  previousIsNsfw : Bool
  newIsPublic : Bool
  newVisibilityMode : MemeVisibilityMode
  newIsNsfw : Bool
  previousTemplateId : Option Uuid := none
  newTemplateId : Option Uuid := none

/-- A selection without its float score; a day is counted from 1970. -/
structure MemeOfTheDaySelection where
  id : Uuid
  memeId : Option Uuid := none
  selectedFor : Nat := 0
  algorithmVersion : String := "motd_v2"
  reason : String := "selected"
  candidateCount : Nat := 0
  refreshedAt : Time := 0
  deriving DecidableEq

structure MemeSeoPage where
  memeId : Uuid
  slug : String
  tags : List String := []
  deriving DecidableEq

structure AnalyticsReferences where
  id : Uuid
  memeId : Option PayloadText := none
  refsMemeId : Option PayloadText := none

structure MemeMergeLog where
  sourceMemeId : Uuid
  sourceMemeFileId : Option Uuid
  targetMemeId : Uuid
  targetPrimaryFileId : Option Uuid
  similarityScore : Option Rat
  mergeReason : String
  movedFileIds : List Uuid := []

structure Content where
  memes : List CanonicalMeme := []
  files : List CanonicalFile := []
  sources : List MemeSource := []
  requests : List RequestReferences := []
  stageRows : List PipelineStageJournal := []
  syncRows : List MemeFileSyncTargetSnapshot := []
  ocrRows : List MemeFileOCRResult := []
  telegramRows : List TelegramFileIdCache := []
  embeddings : List EmbeddingCache := []
  outbox : List OutboxReferences := []
  collections : List Collection := []
  collectionMemes : List CollectionMeme := []
  pinnedMemes : List PinnedMeme := []
  reports : List ModerationReport := []
  decisions : List ModerationDecision := []
  selections : List MemeOfTheDaySelection := []
  seoPages : List MemeSeoPage := []
  analytics : List AnalyticsReferences := []
  mergeLogs : List MemeMergeLog := []

namespace Content

def meme (s : Content) (memeId : Uuid) : Option CanonicalMeme :=
  s.memes.find? fun meme => meme.id = memeId

def filesOf (s : Content) (memeId : Uuid) : List CanonicalFile :=
  s.files.filter fun file => file.memeId = memeId

/-- The unique keys of these tables, and that a file has its meme and a meme its primary file. -/
structure Constraints (s : Content) : Prop where
  memes_unique : (s.memes.map fun meme => meme.id).Nodup
  files_unique : (s.files.map fun file => file.id).Nodup
  files_meme : ∀ file ∈ s.files, ∃ meme ∈ s.memes, meme.id = file.memeId
  memes_primary : ∀ meme ∈ s.memes, ∃ file ∈ s.files,
    file.id = meme.primaryFileId ∧ file.memeId = meme.id
  saves_unique : (s.collectionMemes.map fun row => (row.collectionId, row.memeId)).Nodup
  pins_unique : (s.pinnedMemes.map fun pin => (pin.userId, pin.memeId)).Nodup
  stages_unique : (s.stageRows.map fun row => (row.stage, row.memeFileId)).Nodup
  syncs_unique : (s.syncRows.map fun row => (row.syncTarget, row.memeFileId)).Nodup
  ocr_unique : (s.ocrRows.map fun row => ((), row.memeFileId)).Nodup
  telegram_unique :
    (s.telegramRows.map fun row => ((row.mediaFormat, row.botScope), row.memeFileId)).Nodup
  seo_unique : (s.seoPages.map MemeSeoPage.memeId).Nodup

section Deletion

/-- `ON DELETE SET NULL`. -/
def setNull (gone : Uuid → Bool) (ref : Option Uuid) : Option Uuid := ref.filter fun id => !gone id

def deleteFiles (s : Content) (gone : Uuid → Bool) : Content :=
  { s with
    files := (s.files.filter fun file => !gone file.id).map fun file =>
      { file with matchedMemeFileId := setNull gone file.matchedMemeFileId }
    sources := (s.sources.filter fun row => !gone row.fileId).map fun row =>
      { row with matchedMemeFileId := setNull gone row.matchedMemeFileId }
    requests := s.requests.map fun row =>
      { row with
        materializedMemeFileId := setNull gone row.materializedMemeFileId
        matchedMemeFileId := setNull gone row.matchedMemeFileId }
    stageRows := s.stageRows.filter fun row => !gone row.memeFileId
    syncRows := s.syncRows.filter fun row => !gone row.memeFileId
    ocrRows := s.ocrRows.filter fun row => !gone row.memeFileId
    telegramRows := s.telegramRows.filter fun row => !gone row.memeFileId
    embeddings := s.embeddings.map fun row =>
      { row with sourceFileId := setNull gone row.sourceFileId } }

def deleteMemes (s : Content) (gone : Uuid → Bool) : Content :=
  let s := s.deleteFiles fun fileId => s.files.any fun file => file.id = fileId && gone file.memeId
  { s with
    memes := s.memes.filter fun meme => !gone meme.id
    requests := s.requests.map fun row =>
      { row with materializedMemeId := setNull gone row.materializedMemeId }
    collectionMemes := s.collectionMemes.filter fun row => !gone row.memeId
    pinnedMemes := s.pinnedMemes.filter fun pin => !gone pin.memeId
    reports := s.reports.filter fun row => !gone row.memeId
    decisions := s.decisions.filter fun row => !gone row.memeId
    selections := s.selections.map fun row => { row with memeId := setNull gone row.memeId }
    seoPages := s.seoPages.filter fun page => !gone page.memeId }

end Deletion

/-- `UPDATE memes SET … WHERE id = memeId`. -/
def updateMeme (s : Content) (memeId : Uuid) (f : CanonicalMeme → CanonicalMeme) : Content :=
  { s with memes := s.memes.map fun meme => if meme.id = memeId then f meme else meme }

end Content

end MemeExpert
