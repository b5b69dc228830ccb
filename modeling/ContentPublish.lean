import ContentPublish.Text.Basic
import ContentPublish.Text.Base64
import ContentPublish.Text.Properties
import ContentPublish.Text.Normalization
import ContentPublish.KeyMap
import ContentPublish.Float.Binary64
import ContentPublish.Json.Value
import ContentPublish.Json.Reader
import ContentPublish.Local.Files
import ContentPublish.Url.Host
import ContentPublish.Url.IdnaMapping
import ContentPublish.Url.Idna
import ContentPublish.Url.Parser
import ContentPublish.Model
import ContentPublish.Node
import ContentPublish.Client
import ContentPublish.Remote.Memory
import ContentPublish.Codec
import ContentPublish.Cli
import ContentPublish.Main
import ContentPublish.Proofs.Exchange
import ContentPublish.Proofs.PathSegments
import ContentPublish.Proofs.FolderWalk
import ContentPublish.Proofs.NodeStore
import ContentPublish.Proofs.Publishing
import ContentPublish.Proofs.UrlLaw
import ContentPublish.Proofs.UrlReading
import ContentPublish.Proofs.UrlQuery
import ContentPublish.Proofs.Validation
import ContentPublish.Proofs.UrlPathOnward
import ContentPublish.Proofs.LegacyBase
import ContentPublish.Proofs.PasswordSecrecy
import ContentPublish.Proofs.Unpublishing
import ContentPublish.Proofs.PublishAreas
import ContentPublish.Proofs.QueryRequests
import ContentPublish.Proofs.RunShapes
import ContentPublish.Proofs.ServerHistory
import ContentPublish.Proofs.Operations
import ContentPublish.Proofs.Concurrency
import ContentPublish.Proofs.KeyOrder
import ContentPublish.Proofs.JsonNumbers
import ContentPublish.Proofs.JsonReading
import ContentPublish.Proofs.JsonReadBack
import ContentPublish.Proofs.JsonNesting
import ContentPublish.Proofs.Base64RoundTrip
import ContentPublish.Proofs.Base64Canonical
import ContentPublish.Proofs.QueryAnswers
import ContentPublish.Proofs.FileContent
import ContentPublish.Proofs.NodeTypeListing
import ContentPublish.Proofs.DocumentReadBack
import ContentPublish.Proofs.Calendar
import ContentPublish.Proofs.TimestampText
import ContentPublish.Proofs.CollectionListing
import ContentPublish.Proofs.FolderPaths
