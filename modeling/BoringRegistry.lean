import BoringRegistry.Go.Path
import BoringRegistry.Go.Errors
import BoringRegistry.Go.Url
import BoringRegistry.Core
import BoringRegistry.S3.Client
import BoringRegistry.S3.Runs
import BoringRegistry.S3.CopySource
import BoringRegistry.Storage.Keys
import BoringRegistry.Storage.Providers
import BoringRegistry.Storage.S3
import BoringRegistry.Storage.Specs
import BoringRegistry.Guarantees.Immutability
import BoringRegistry.Guarantees.RoundTrip
import BoringRegistry.Guarantees.Listings
import BoringRegistry.Guarantees.ErrorKinds
import BoringRegistry.Guarantees.ProviderPaths
import BoringRegistry.Guarantees.ProviderLookup
import BoringRegistry.Migration.Plan
import BoringRegistry.Migration.Idempotence
import BoringRegistry.Migration.CopySources
import BoringRegistry.Concurrent.Programs
import BoringRegistry.Concurrent.Interleavings
import BoringRegistry.Guarantees.ProviderReleases
import BoringRegistry.Concurrent.Independence
import BoringRegistry.Concurrent.Budgets
import BoringRegistry.Migration.Serving
import BoringRegistry.Concurrent.Completion
import BoringRegistry.Concurrent.Atomicity
import BoringRegistry.Concurrent.Durability
