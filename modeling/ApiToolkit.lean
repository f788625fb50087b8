import ApiToolkit.Strings
import ApiToolkit.Migrator.Basic
import ApiToolkit.Migrator.FileName
import ApiToolkit.Migrator.Load
import ApiToolkit.Migrator.Sources
import ApiToolkit.Migrator.Db
import ApiToolkit.Migrator.Up
import ApiToolkit.Migrator.Pending
import ApiToolkit.Migrator.Apply
import ApiToolkit.Migrator.Drift
import ApiToolkit.Migrator.Down
import ApiToolkit.Migrator.Tracking
import ApiToolkit.Migrator.Status
import ApiToolkit.Migrator.LoadInCall
import ApiToolkit.Migrator.Quote
import ApiToolkit.Migrator.Lock
import ApiToolkit.GoFloat
import ApiToolkit.RateLimit.Bucket
import ApiToolkit.Trace.TraceParent
import ApiToolkit.Trace.Middleware
import ApiToolkit.Endpoints.List
import ApiToolkit.Health.Aggregate
import ApiToolkit.Itoa
import ApiToolkit.TxPostgres
import ApiToolkit.Strconv
import ApiToolkit.GoMap
import ApiToolkit.EnvVar
import ApiToolkit.Http.Response
import ApiToolkit.Http.Problem
import ApiToolkit.Http.Middleware
import ApiToolkit.Http.Stack
import ApiToolkit.Health.Checkers
import ApiToolkit.Validation
import ApiToolkit.Health.Handlers
import ApiToolkit.RateLimit.Keys
import ApiToolkit.Endpoints.Paging
