import MefsSdk.Http
import MefsSdk.BucketCache
import MefsSdk.CacheLock
import MefsSdk.Api
import MefsSdk.Redirect
import MefsSdk.Commands
import MefsSdk.Attempt
import MefsSdk.Execute
import MefsSdk.Concurrent
