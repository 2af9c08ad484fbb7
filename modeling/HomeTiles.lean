import HomeTiles.AppSnapshot
import HomeTiles.Callbacks
import HomeTiles.DecimalText
import HomeTiles.Display
import HomeTiles.Double
import HomeTiles.Entries
import HomeTiles.Faults
import HomeTiles.FileStorage
import HomeTiles.FileTree
import HomeTiles.JsonReader
import HomeTiles.JsonWriter
import HomeTiles.LaunchPathCache
import HomeTiles.Listeners
import HomeTiles.Listing
import HomeTiles.MemoryStorage
import HomeTiles.Node
import HomeTiles.Notices
import HomeTiles.Path
import HomeTiles.PreferenceStore
import HomeTiles.Preferences
import HomeTiles.PrintableChars
import HomeTiles.Product
import HomeTiles.Proofs.AlikeValues
import HomeTiles.Proofs.Announcements
import HomeTiles.Proofs.DecimalRounding
import HomeTiles.Proofs.DistinctNames
import HomeTiles.Proofs.FileTreePaths
import HomeTiles.Proofs.JsonReadBack
import HomeTiles.Proofs.KeyedChanges
import HomeTiles.Proofs.NestedAnnouncements
import HomeTiles.Proofs.NodeUpdates
import HomeTiles.Proofs.NumberReading
import HomeTiles.Proofs.PreferenceDocuments
import HomeTiles.Proofs.RecordedStorage
import HomeTiles.Proofs.StorageFiles
import HomeTiles.Proofs.StorageNamespaces
import HomeTiles.Proofs.StorageRoundTrip
import HomeTiles.Proofs.TextValues
import HomeTiles.Proofs.Transcripts
import HomeTiles.Proofs.WriteThrough
import HomeTiles.Session
import HomeTiles.SettingsStorage
import HomeTiles.Storage
import HomeTiles.TileAction
import HomeTiles.Value
import HomeTiles.ValueEquality
import HomeTiles.WidgetSize
import HomeTiles.Proofs.LastHeard
import HomeTiles.Proofs.CurrentRecord
import HomeTiles.Proofs.UpdatesKept
import HomeTiles.Proofs.PairedRuns
import HomeTiles.Proofs.WriteFailures
import HomeTiles.Proofs.Interchange
import HomeTiles.Proofs.CalmListeners
import HomeTiles.Proofs.FailedFileWrites
import HomeTiles.Proofs.FailedWrites
import HomeTiles.Proofs.Rehydration
import HomeTiles.Proofs.EventChains
import HomeTiles.Proofs.FailedCalls
import HomeTiles.Proofs.LaunchListings
import HomeTiles.Proofs.StoredContents
import HomeTiles.Proofs.WholeDocuments
import HomeTiles.Proofs.TreeViews
import HomeTiles.Proofs.SavedFiles
import HomeTiles.Proofs.SnapshotFields
import HomeTiles.Proofs.DecisionTable
import HomeTiles.Proofs.VersionHashes
import HomeTiles.Proofs.MalformedHashes
import HomeTiles.Proofs.CachedLaunches
import HomeTiles.Proofs.Registrations
import HomeTiles.Proofs.SavedAgain
import HomeTiles.Proofs.FilesBeside
import HomeTiles.Proofs.MergedChanges
import HomeTiles.Proofs.NormalSnapshots
