import TableQuery.Answer.Event
import TableQuery.Document.Reader
import TableQuery.Page
import TableQuery.Proofs.Answer.Bullets
import TableQuery.Proofs.Answer.Checked
import TableQuery.Proofs.Answer.Repetition
import TableQuery.Proofs.Answer.Selection
import TableQuery.Proofs.Answer.SharedColumn
import TableQuery.Proofs.Answer.Shown
import TableQuery.Proofs.Answer.Texts
import TableQuery.Proofs.Cell.Numeral
import TableQuery.Proofs.History.Export
import TableQuery.Proofs.History.Run
import TableQuery.Proofs.Page.Batch
import TableQuery.Proofs.Page.Controls
import TableQuery.Proofs.Page.Intake
import TableQuery.Proofs.Profile
import TableQuery.Proofs.Question.Headers
import TableQuery.Proofs.Question.Normalizing
import TableQuery.Proofs.Question.OwnName
import TableQuery.Proofs.Question.Reach
import TableQuery.Proofs.Rows.Numbering
import TableQuery.Proofs.Rows.Search
import TableQuery.Proofs.Rows.Ties
import TableQuery.Proofs.Settings.Documents
import TableQuery.Proofs.Settings.Precedence
import TableQuery.Proofs.Settings.SetUp
import TableQuery.Proofs.Settings.Supplied
import TableQuery.Proofs.Shelf.Failure
import TableQuery.Proofs.Shelf.Uploads
import TableQuery.Proofs.Summary.Average
import TableQuery.Proofs.Summary.Finite
import TableQuery.Proofs.Summary.Listing
import TableQuery.Settings.Logging
