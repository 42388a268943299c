import JsxPages.Main
import JsxPages.Project.Tree
import JsxPages.Proofs.Attribute.Distinct
import JsxPages.Proofs.Attribute.Scripts
import JsxPages.Proofs.Attribute.Spelling
import JsxPages.Proofs.Command.Conversion
import JsxPages.Proofs.Document.Bodies
import JsxPages.Proofs.Document.Dropped
import JsxPages.Proofs.Document.ElementNames
import JsxPages.Proofs.Document.Enclosed
import JsxPages.Proofs.Document.Invariant
import JsxPages.Proofs.Document.OpenHead
import JsxPages.Proofs.Document.Reports
import JsxPages.Proofs.Document.SelfClosing
import JsxPages.Proofs.Document.Texts
import JsxPages.Proofs.Image.Index
import JsxPages.Proofs.Image.Resolution
import JsxPages.Proofs.Image.Statements
import JsxPages.Proofs.Jsx.Balanced
import JsxPages.Proofs.Jsx.ChildText
import JsxPages.Proofs.Jsx.Pieces
import JsxPages.Proofs.Jsx.Reread
import JsxPages.Proofs.Project.Bindings
import JsxPages.Proofs.Project.ClassNames
import JsxPages.Proofs.Project.Manifest
import JsxPages.Proofs.Project.Order
import JsxPages.Proofs.Project.PageOptions
import JsxPages.Proofs.Project.Routes
import JsxPages.Proofs.Project.Written
import JsxPages.Proofs.Script.Object
import JsxPages.Proofs.Style.Composition
import JsxPages.Proofs.Tables.Minted
import JsxPages.Proofs.Tables.Stylesheet
