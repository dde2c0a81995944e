import MemeExpert.Services.SynonymRuns
import MemeExpert.Pipeline.FanOut
import MemeExpert.Services.CancelledDeliveries
import MemeExpert.Services.RetryBudget
import MemeExpert.Services.RecoveryContract
import MemeExpert.Services.DependencyCircuit
import MemeExpert.Services.LikeCounts
import MemeExpert.Services.PinPositions
import MemeExpert.Services.SaveTargets
import MemeExpert.Recommendations.FeedRuns
import MemeExpert.Recommendations.ViewerPools
import MemeExpert.Services.SyncSnapshots
import MemeExpert.Services.StuckStages
import MemeExpert.Services.CancelledJobs
import MemeExpert.Crawlers.BackfillLeases
import MemeExpert.Crawlers.PoisonPosts
import MemeExpert.Crawlers.CursorHoles
import MemeExpert.Crawlers.SettledPosts
import MemeExpert.Crawlers.TelegramSessions
import MemeExpert.Services.TokenRevocation
import MemeExpert.Services.ModerationLedger
import MemeExpert.Services.ModerationMerges
import MemeExpert.Services.SourceChannelAudience
import MemeExpert.Frontend.QueueConservation
import MemeExpert.Recommendations.ProfileStore
import MemeExpert.Services.IdempotentInteractions
import MemeExpert.Frontend.QrCorrection
import MemeExpert.Services.ActivityAccounting
import MemeExpert.Services.LinkRaces
import MemeExpert.Services.EngagementSchedule
import MemeExpert.Services.SynonymRoundTrip
import MemeExpert.Recommendations.Diversity
import MemeExpert.Recommendations.Fusion
import MemeExpert.Services.SearchCollation
import MemeExpert.Services.PopularPages
import MemeExpert.Recommendations.SignalPolicy
import MemeExpert.Frontend.Masonry
import MemeExpert.Services.DeadLetters
import MemeExpert.Services.PipelineCapacity
import MemeExpert.Frontend.SearchParams
import MemeExpert.Services.InlinePaging
import MemeExpert.Services.StageSnapshots
import MemeExpert.Services.PreviewMaterialization
import MemeExpert.Crawlers.PostMetadata
import MemeExpert.Services.MemeOfTheDay
import MemeExpert.Services.MemeSeo
import MemeExpert.Recommendations.Profiles
