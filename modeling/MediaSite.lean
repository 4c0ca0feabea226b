import MediaSite.Text.Lowercase
import MediaSite.Text.Blank
import MediaSite.Text.Digit
import MediaSite.Json.Parser
import MediaSite.Library.Calendar
import MediaSite.Site.Layout
import MediaSite.Files.Tree
import MediaSite.Library.Json
import MediaSite.Library.Order
import MediaSite.Template.Block
import MediaSite.Template.ImageToken
import MediaSite.Site.Page
import MediaSite.Toml.Parser
import MediaSite.Site.Pack
import MediaSite.Site.Artwork
import MediaSite.Picture.Recording
import MediaSite.Site.Report
import MediaSite.Picture.Png
import MediaSite.Picture.Jpeg
import MediaSite.Picture.Tiff
import MediaSite.Site.CommandLine
import MediaSite.Picture.Encode
import MediaSite.Main
import MediaSite.Proofs.Site.Inertness
import MediaSite.Proofs.Export.Cancellation
import MediaSite.Proofs.Template.ImageTokens
import MediaSite.Proofs.Template.Tidy
import MediaSite.Proofs.Site.Substitution
import MediaSite.Proofs.Template.MarkedBlock
import MediaSite.Proofs.Library.Episodes
import MediaSite.Proofs.Site.Requests
import MediaSite.Proofs.Template.Pictures
import MediaSite.Proofs.Site.ShowPictures
import MediaSite.Proofs.Site.ArtworkRequests
import MediaSite.Proofs.Template.Replacement
import MediaSite.Proofs.Site.ArtworkCalls
import MediaSite.Proofs.Site.PictureOrder
import MediaSite.Proofs.Site.ArtworkCache
import MediaSite.Proofs.Files.Growth
import MediaSite.Proofs.Template.Markers
import MediaSite.Proofs.Site.BlockModes
import MediaSite.Proofs.Site.EpisodeOrder
import MediaSite.Proofs.Export.EpisodePages
import MediaSite.Proofs.Files.Changes
import MediaSite.Proofs.Files.Places
import MediaSite.Proofs.Export.ListPages
import MediaSite.Proofs.Export.FileEffect
import MediaSite.Proofs.Export.SetUp
import MediaSite.Proofs.Export.LateRequests
import MediaSite.Proofs.Library.Arrangement
import MediaSite.Proofs.Site.SameView
import MediaSite.Proofs.Export.Arrangements
import MediaSite.Proofs.Template.Names
import MediaSite.Proofs.Site.ValueBlocks
import MediaSite.Proofs.Site.Leftovers
import MediaSite.Proofs.Files.Regular
import MediaSite.Proofs.Files.Repetition
import MediaSite.Proofs.Files.Parents
import MediaSite.Proofs.Files.Directories
import MediaSite.Proofs.Files.Retracing
import MediaSite.Proofs.Export.Assets
import MediaSite.Proofs.Export.Repetition
import MediaSite.Proofs.Export.History
import MediaSite.Proofs.Export.AssetCopies
import MediaSite.Proofs.Export.ExactCopies
import MediaSite.Proofs.Export.PackSafety
import MediaSite.Proofs.Toml.Merge
import MediaSite.Proofs.Site.Layers
import MediaSite.Proofs.Text.Digits
import MediaSite.Proofs.Library.Dates
import MediaSite.Proofs.Json.Codec
import MediaSite.Proofs.Json.Records
import MediaSite.Proofs.Library.Format
import MediaSite.Proofs.Text.Occurrences
import MediaSite.Proofs.Template.BlockSearch
import MediaSite.Proofs.Template.BlockCopies
import MediaSite.Proofs.Template.ColumnRows
import MediaSite.Proofs.Template.Unescaping
import MediaSite.Proofs.Site.Transcoding
import MediaSite.Proofs.Toml.Overlay
import MediaSite.Proofs.Template.NameSearch
