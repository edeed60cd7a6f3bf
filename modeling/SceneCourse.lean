import SceneCourse.FileTree
import SceneCourse.Main
import SceneCourse.Proofs.Exploration
import SceneCourse.Session.Script
import SceneCourse.Proofs.Invariance
import SceneCourse.Proofs.Navigation
import SceneCourse.Proofs.TriggerPass
import SceneCourse.Proofs.LoadedCourse
import SceneCourse.Proofs.SharedMapping
import SceneCourse.Proofs.JsonDocument
import SceneCourse.Proofs.Seeding
import SceneCourse.Proofs.LastingCourse
import SceneCourse.Proofs.Phases
import SceneCourse.Proofs.ReadOverWrite
import SceneCourse.Proofs.Telling
import SceneCourse.Proofs.Verdict
import SceneCourse.Proofs.Transparency
import SceneCourse.Proofs.Normalization
import SceneCourse.Proofs.ScenePass
import SceneCourse.Proofs.TierShape
import SceneCourse.Proofs.ActionReading
import SceneCourse.Proofs.Mishap
import SceneCourse.Proofs.Replay
import SceneCourse.Proofs.Sites
import SceneCourse.Proofs.SitedStore
import SceneCourse.Proofs.SceneEntry
import SceneCourse.Proofs.LogHistory
import SceneCourse.Proofs.LogWindow
import SceneCourse.Proofs.SameKey
import SceneCourse.Proofs.Subscriptions
import SceneCourse.Proofs.SceneWalk
import SceneCourse.Proofs.JsonData
import SceneCourse.Proofs.JsonReread
import SceneCourse.Proofs.JsonWritten
import SceneCourse.Proofs.LogExchange
import SceneCourse.Proofs.Cascade
import SceneCourse.Proofs.Operations
import SceneCourse.Proofs.RootKeys
import SceneCourse.Proofs.HeldContainers
import SceneCourse.Proofs.TiedCopies
import SceneCourse.Proofs.Hiding
import SceneCourse.Proofs.Snapshot
import SceneCourse.Proofs.Resumption
import SceneCourse.Proofs.Renaming
import SceneCourse.Proofs.RenamedState
import SceneCourse.Proofs.RenamedAnswer
import SceneCourse.Proofs.RenamedCourse
import SceneCourse.Proofs.Twins
import SceneCourse.Proofs.Programs
import SceneCourse.Proofs.Renewal
import SceneCourse.Proofs.Meaning
import SceneCourse.Proofs.IntegerRounding
import SceneCourse.Proofs.StrictEquality
import SceneCourse.Proofs.IntegerOrder
import SceneCourse.Proofs.NumeralGrammar
import SceneCourse.Proofs.Interpolation
import SceneCourse.Proofs.Lookup
import SceneCourse.Proofs.ReachedScenes
import SceneCourse.Proofs.GrowingTree
import SceneCourse.Proofs.Increment
import SceneCourse.Proofs.Sums
import SceneCourse.Proofs.Presenting
import SceneCourse.Proofs.NodeReferences
import SceneCourse.Proofs.IdleTriggers
import SceneCourse.Proofs.ReportFigures
import SceneCourse.Proofs.Refusal
import SceneCourse.Proofs.NodePaths
import SceneCourse.Proofs.FailedWrites
import SceneCourse.Proofs.Grafting
import SceneCourse.Proofs.Merging
import SceneCourse.Proofs.Transitions
import SceneCourse.Proofs.SettingNames
import SceneCourse.Proofs.NestedReading
import SceneCourse.Proofs.TriggerReading
import SceneCourse.Proofs.CourseReading
import SceneCourse.Proofs.JsonRemainder
import SceneCourse.Proofs.Loading
