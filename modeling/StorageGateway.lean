import StorageGateway.Browser
import StorageGateway.Gateway
import StorageGateway.Listing
import StorageGateway.Main
import StorageGateway.Proofs.Text.Utf8
import StorageGateway.Proofs.Text.Percent
import StorageGateway.Proofs.Bytes.Cut
import StorageGateway.Proofs.Cookie.Table
import StorageGateway.Proofs.Text.FormData
import StorageGateway.Proofs.Session.Mark
import StorageGateway.Proofs.Handler.Errand
import StorageGateway.Proofs.Gateway.Errands
import StorageGateway.Proofs.Gateway.Subject
import StorageGateway.Proofs.Cookie.Field
import StorageGateway.Proofs.Cookie.Line
import StorageGateway.Proofs.Browser.Store
import StorageGateway.Proofs.Browser.Visit
import StorageGateway.Proofs.Session.Ledger
import StorageGateway.Proofs.Session.Operations
import StorageGateway.Proofs.Session.Return
import StorageGateway.Proofs.Session.Isolation
import StorageGateway.Proofs.Multipart.Scan
import StorageGateway.Proofs.Text.Strict
import StorageGateway.Proofs.Multipart.Sections
import StorageGateway.Proofs.Multipart.FileName
import StorageGateway.Proofs.Multipart.Form
import StorageGateway.Proofs.Multipart.Boundary
import StorageGateway.Proofs.Url.Domain
import StorageGateway.Proofs.Url.Address
import StorageGateway.Proofs.Url.Host
import StorageGateway.Proofs.Url.Authority
import StorageGateway.Proofs.Url.Base
import StorageGateway.Proofs.Service.Chain
import StorageGateway.Proofs.Service.Call
import StorageGateway.Proofs.Session.Bearer
import StorageGateway.Proofs.Gateway.Upload
import StorageGateway.Proofs.Http.Form
import StorageGateway.Proofs.Multipart.Refusal
import StorageGateway.Proofs.Gateway.Rejection
import StorageGateway.Proofs.Gateway.Calls
import StorageGateway.Proofs.Gateway.Reports
import StorageGateway.Proofs.Route.Selection
import StorageGateway.Proofs.Gateway.Addresses
import StorageGateway.Proofs.Gateway.Areas
import StorageGateway.Proofs.Gateway.Downloads
import StorageGateway.Proofs.Session.Issue
import StorageGateway.Proofs.Multipart.Delivery
import StorageGateway.Proofs.Html.Reading
import StorageGateway.Proofs.Page.Contents
import StorageGateway.Proofs.Route.Names
import StorageGateway.Proofs.Gateway.Navigation
import StorageGateway.Proofs.Gateway.UploadLimit
import StorageGateway.Proofs.Http.Parameters
import StorageGateway.Proofs.Multipart.Parts
import StorageGateway.Proofs.Multipart.PartNames
import StorageGateway.Proofs.Multipart.Selection
import StorageGateway.Proofs.Gateway.SelectedFiles
import StorageGateway.Proofs.Gateway.Redirects
import StorageGateway.Proofs.Url.Path
import StorageGateway.Proofs.Service.Endpoint
import StorageGateway.Proofs.Text.Parts
import StorageGateway.Proofs.Text.Decimal
import StorageGateway.Proofs.Json.Token
import StorageGateway.Proofs.Json.Value
import StorageGateway.Proofs.Json.Cut
import StorageGateway.Proofs.Json.Literal
import StorageGateway.Proofs.Json.Record
import StorageGateway.Proofs.Service.Report
import StorageGateway.Proofs.Service.Listing
import StorageGateway.Proofs.Gateway.Listings
import StorageGateway.Proofs.Calendar.Days
import StorageGateway.Proofs.Calendar.Text
import StorageGateway.Proofs.Options.Forms
import StorageGateway.Proofs.Options.Sources
import StorageGateway.Proofs.Gateway.Passwords
import StorageGateway.Proofs.Gateway.Nameless
