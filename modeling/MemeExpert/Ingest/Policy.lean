import MemeExpert.Models.Content

/-! Who can see a meme follows from its mode and from where its files came from;
near-duplicates are merged within one audience only. -/

namespace MemeExpert

structure ApproximateMergeScope where
  isPublic : Bool
  uploaderUserId : Option Uuid := none

def resolveVisibilityMode : List MemeVisibilityMode → MemeVisibilityMode := go .auto
where
  go (resolved : MemeVisibilityMode) : List MemeVisibilityMode → MemeVisibilityMode
    | [] => resolved
    | .forcePrivate :: _ => .forcePrivate
    | .forcePublic :: rest => go .forcePublic rest
    | .auto :: rest => go resolved rest

def refreshedVisibility (mode : MemeVisibilityMode) (incomingSourceKind : Option IngestSourceKind)
    (hasPublicCrawlerSource : Bool) : Bool :=
  if mode = .forcePrivate then false
  else if mode = .forcePublic ∨ incomingSourceKind = some .publicCrawler then true
  else hasPublicCrawlerSource

namespace Content

variable (s : Content)

def sourcesOf (memeId : Uuid) : List MemeSource :=
  s.sources.filter fun source =>
    s.files.any fun file => file.id = source.fileId && file.memeId = memeId

def memeHasPublicCrawlerSource (memeId : Uuid) : Bool :=
  (s.sourcesOf memeId).any fun source => source.sourceKind = .publicCrawler

def effectiveVisibility (meme : CanonicalMeme) : Bool :=
  match meme.visibilityMode with
  | .forcePrivate => false
  | .forcePublic => true
  | .auto => s.memeHasPublicCrawlerSource meme.id

def refreshEffectiveVisibility (memeId : Uuid) : Content :=
  s.updateMeme memeId fun meme => { meme with isPublic := s.effectiveVisibility meme }

def loadMemeUploaderUserIds (memeId : Uuid) : List Uuid :=
  ((s.sourcesOf memeId).filterMap MemeSource.uploaderUserId).dedup.insertionSort (· ≤ ·)

def loadApproximateMergeScope (meme : CanonicalMeme) : ApproximateMergeScope :=
  if meme.isPublic then { isPublic := true }
  else
    { isPublic := false
      uploaderUserId :=
        match s.loadMemeUploaderUserIds meme.id with
        | [uploader] => some uploader
        | _ => none }

end Content

end MemeExpert
