import FamilyOrders.Main
import FamilyOrders.Proofs.Creation.SideBySide
import FamilyOrders.Proofs.Creation.CallSequence
import FamilyOrders.Proofs.Creation.RenderedOrders
import FamilyOrders.Proofs.Creation.StoredContent
import FamilyOrders.Proofs.Stamping
import FamilyOrders.Proofs.Storage.Deposits
import FamilyOrders.Proofs.Storage.Containment
import FamilyOrders.Proofs.Storage.FailedCreations
import FamilyOrders.Proofs.PrintedDates
import FamilyOrders.Proofs.Records
import FamilyOrders.Proofs.Registration
import FamilyOrders.Proofs.CaseFiles
import FamilyOrders.Proofs.CompleteCases
import FamilyOrders.Proofs.Creation.LeftoverAnswers
import FamilyOrders.Proofs.FileNames
import FamilyOrders.Proofs.Storage.Reuploads
import FamilyOrders.Proofs.Previews
import FamilyOrders.Proofs.PreviewMarks
import FamilyOrders.Proofs.CommandRuns
import FamilyOrders.Proofs.Docmosis.Requests
import FamilyOrders.Proofs.Creation.DatedOrders
import FamilyOrders.Proofs.ToldEnds
import FamilyOrders.Proofs.ChildNouns
import FamilyOrders.Proofs.Creation.NumberAgreement
import FamilyOrders.Proofs.SnakeCase
import FamilyOrders.Proofs.Storage.StoredNames
import FamilyOrders.Proofs.Storage.OwnDirectories
import FamilyOrders.Proofs.Creation.TickedChildren
import FamilyOrders.Proofs.Docmosis.RequestedFormats
import FamilyOrders.Proofs.FaithfulParticulars
import FamilyOrders.Proofs.Numerals
