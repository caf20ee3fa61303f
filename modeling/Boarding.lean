import Boarding.Code
import Boarding.Document.Entries
import Boarding.Document.Fault
import Boarding.Document.Foreign
import Boarding.Document.Form
import Boarding.Document.Literal
import Boarding.Document.Numeral
import Boarding.Document.Printer
import Boarding.Document.Reader
import Boarding.Document.Receipt
import Boarding.Document.Space
import Boarding.Document.Spelling
import Boarding.Field
import Boarding.Form
import Boarding.Issue
import Boarding.Listing
import Boarding.Number.Double
import Boarding.Number.Quantity
import Boarding.Number.Shortest
import Boarding.Pass
import Boarding.Proofs.Canonical
import Boarding.Proofs.Contract
import Boarding.Proofs.Counting
import Boarding.Proofs.Discretion
import Boarding.Proofs.Failure
import Boarding.Proofs.Filling
import Boarding.Proofs.Finality
import Boarding.Proofs.Grammar
import Boarding.Proofs.Issuing
import Boarding.Proofs.Listing
import Boarding.Proofs.Literal
import Boarding.Proofs.Messages
import Boarding.Proofs.Octets
import Boarding.Proofs.Offence
import Boarding.Proofs.Positional
import Boarding.Proofs.RoundTrip
import Boarding.Proofs.Session
import Boarding.Proofs.Wording
import Boarding.Session.Slots
import Boarding.Session.Step
import Boarding.Text.Blank
import Boarding.Text.Quoted
import Boarding.Text.Table
import Boarding.Text.Unseen
