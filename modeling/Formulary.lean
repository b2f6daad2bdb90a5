import Formulary.Main
import Formulary.Service.Client
import Formulary.Expression.Grammar
import Formulary.Proofs.Expression.Tidy
import Formulary.Proofs.Text.SortedNames
import Formulary.Proofs.Directory.Reachable
import Formulary.Proofs.Directory.Combined
import Formulary.Proofs.Directory.Dependence
import Formulary.Proofs.Directory.Lifecycle
import Formulary.Proofs.Expression.Exact
import Formulary.Proofs.Expression.Evaluation
import Formulary.Proofs.Expression.Substitution
import Formulary.Proofs.Expression.Refusal
import Formulary.Proofs.Arithmetic.PowerSize
import Formulary.Proofs.Directory.Exact
import Formulary.Proofs.Directory.Refused
import Formulary.Proofs.Directory.Clients
import Formulary.Proofs.Equation.Edits
import Formulary.Proofs.Directory.Broken
import Formulary.Proofs.Service.Methods
import Formulary.Proofs.Service.Front
import Formulary.Proofs.Directory.Merging
import Formulary.Proofs.Directory.Described
import Formulary.Proofs.Equation.Blanks
import Formulary.Proofs.Expression.Conservation
import Formulary.Proofs.Equation.Renaming
import Formulary.Proofs.Number.Shown
import Formulary.Proofs.Service.Answers
import Formulary.Proofs.CommandLine.Arguments
import Formulary.Proofs.CommandLine.Solution
import Formulary.Proofs.Expression.UniqueReading
import Formulary.Proofs.Expression.OutputOrder
import Formulary.Proofs.Assignments
import Formulary.Proofs.Directory.Log
