import NumeralStyle.Log
import NumeralStyle.Session
import NumeralStyle.Demo
import NumeralStyle.Main
import NumeralStyle.Proofs.Numeral.Grammar
import NumeralStyle.Proofs.Check.Canonical
import NumeralStyle.Proofs.Decimal.Acceptance
import NumeralStyle.Proofs.Decimal.Magnitude
import NumeralStyle.Proofs.Cache.Transparency
import NumeralStyle.Proofs.Numeral.Insertion
import NumeralStyle.Proofs.Check.Explanation
import NumeralStyle.Proofs.Numeral.Branches
import NumeralStyle.Proofs.Numeral.Places
import NumeralStyle.Proofs.Log.Lines
import NumeralStyle.Proofs.Style.Document
import NumeralStyle.Proofs.Check.Threshold
import NumeralStyle.Proofs.Numeral.RegionSplit
import NumeralStyle.Proofs.Check.LetterCase
import NumeralStyle.Proofs.Decimal.Exponent
import NumeralStyle.Proofs.Numeral.BinaryType
import NumeralStyle.Proofs.Check.Locality
import NumeralStyle.Proofs.Suggestion.Document
import NumeralStyle.Proofs.Decimal.Words
import NumeralStyle.Proofs.Decimal.Tens
import NumeralStyle.Proofs.Session.Runs
