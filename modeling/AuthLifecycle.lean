import AuthLifecycle.Go.Runtime
import AuthLifecycle.Go.Time
import AuthLifecycle.Utils.Validator
import AuthLifecycle.Utils.Jwt
import AuthLifecycle.Store.World
import AuthLifecycle.Store.Prog
import AuthLifecycle.Store.Interleave
import AuthLifecycle.Store.Postgres
import AuthLifecycle.Repository
import AuthLifecycle.Repository.Maintenance
import AuthLifecycle.Repository.OAuthProvider
import AuthLifecycle.Service.Auth
import AuthLifecycle.Config
import AuthLifecycle.Service.AuthSpec
import AuthLifecycle.Engine.Step
import AuthLifecycle.Engine.Invariant
import AuthLifecycle.Engine.Issuance
import AuthLifecycle.Engine.Revocation
import AuthLifecycle.Service.RateLimiter
import AuthLifecycle.Service.RateLimiterSpec
import AuthLifecycle.Handler.Auth
import AuthLifecycle.Handler.Middleware
import AuthLifecycle.Handler.RateLimit
import AuthLifecycle.Engine.Session
import AuthLifecycle.Engine.Server
import AuthLifecycle.Engine.Concurrent
import AuthLifecycle.Engine.Maintenance
import AuthLifecycle.Engine.Expiry
