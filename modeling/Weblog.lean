import Weblog.Blog.Routes
import Weblog.Config.EnvFile
import Weblog.Json.Parser
import Weblog.Proofs.Sql.Native
import Weblog.Proofs.Sql.Reading
import Weblog.Proofs.Sql.Written
import Weblog.Proofs.Blog.Stamp
import Weblog.Proofs.Route.Dispatch
import Weblog.Proofs.Session.Binding
import Weblog.Proofs.Session.Header
import Weblog.Proofs.Store.Alignment
import Weblog.Proofs.Store.Record
import Weblog.Site
import Weblog.Sql.Registration
import Weblog.Store.Replay
import Weblog.Template.Pages
import Weblog.Proofs.Route.Tree
import Weblog.Blog.Site
import Weblog.Proofs.Route.Table
import Weblog.Proofs.Site
import Weblog.Proofs.Blog.Site
import Weblog.Proofs.Fallible
import Weblog.Proofs.Store.Database
import Weblog.Proofs.Blog.Users
import Weblog.Proofs.Blog.Accounts
import Weblog.Proofs.Route.Answer
import Weblog.Proofs.Blog.Login
import Weblog.Proofs.Action
import Weblog.Proofs.Alike
import Weblog.Proofs.Store.Transaction
import Weblog.Proofs.Sql.Kind
import Weblog.Proofs.Store.Access
import Weblog.Proofs.Route.Access
import Weblog.Proofs.Blog.Access
import Weblog.Proofs.Gate
import Weblog.Proofs.Blog.Authorization
import Weblog.Proofs.Route.Captured
import Weblog.Proofs.Blog.Parameters
import Weblog.Proofs.Interleaving
import Weblog.Proofs.Blog.Registrations
import Weblog.Proofs.Blog.Drafts
import Weblog.Proofs.Blog.Inserts
import Weblog.Proofs.Blog.Requests
import Weblog.Proofs.Blog.Provenance
import Weblog.Proofs.Store.Script
import Weblog.Proofs.Store.Hidden
import Weblog.Proofs.Blog.Statements
import Weblog.Proofs.Sql.Markers
import Weblog.Proofs.Blog.Masked
import Weblog.Proofs.Blog.Hashes
import Weblog.Proofs.Session.Validity
import Weblog.Proofs.Page
import Weblog.Proofs.Blog.Listings
import Weblog.Proofs.Blog.Rendered
import Weblog.Proofs.Sql.Rows
import Weblog.Proofs.Sql.Table
import Weblog.Proofs.Blog.PostRows
import Weblog.Proofs.Blog.Edits
import Weblog.Proofs.Sql.Chunk
import Weblog.Proofs.Route.Required
import Weblog.Proofs.Route.ContentType
import Weblog.Proofs.Sql.WellFormed
import Weblog.Proofs.Sql.FindAll
import Weblog.Proofs.Blog.Writing
import Weblog.Proofs.Blog.Calls
import Weblog.Proofs.Blog.Reports
import Weblog.Proofs.Blog.Updates
import Weblog.Proofs.Blog.SignUps
import Weblog.Proofs.Sql.Validation
import Weblog.Proofs.Store.Insertion
import Weblog.Proofs.Store.Operations
import Weblog.Proofs.Template.Elements
import Weblog.Proofs.Blog.Articles
import Weblog.Proofs.Blog.Index
import Weblog.Proofs.Route.Pattern
import Weblog.Proofs.Route.Delimited
import Weblog.Proofs.Route.Registry
import Weblog.Proofs.Route.Assembly
import Weblog.Proofs.Blog.ParameterNames
import Weblog.Proofs.Reply
import Weblog.Proofs.Route.Body
import Weblog.Proofs.Route.Formats
import Weblog.Proofs.Http.Multipart
import Weblog.Proofs.BodyLimit
import Weblog.Proofs.Head
import Weblog.Proofs.Blog.Heads
import Weblog.Proofs.Http.Form
import Weblog.Proofs.Session.Spelling
import Weblog.Proofs.Config
import Weblog.Proofs.Store.Selection
import Weblog.Proofs.Session.Token
