import TjoQuery.Regex
import TjoQuery.Validate
import TjoQuery.Builder
import TjoQuery.Mutator
import TjoQuery.Commute
import TjoQuery.Assemble
import TjoQuery.Rendering
import TjoQuery.Heap
import TjoQuery.Placeholders
import TjoQuery.Model
import TjoQuery.Port
import TjoQuery.Execute
import TjoQuery.Terminal
import TjoQuery.Transaction
import TjoQuery.Registry
import TjoQuery.Chunking
import TjoQuery.Select
import TjoQuery.Writes
import TjoQuery.Lifecycle
import TjoQuery.Net
import TjoQuery.ClientIP
import TjoQuery.Redis
import TjoQuery.Cache
import TjoQuery.CacheView
import TjoQuery.Sent
import TjoQuery.Closing
import TjoQuery.Errors
import TjoQuery.Config
import TjoQuery.Otel
import TjoQuery.FormValidation
