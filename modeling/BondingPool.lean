import BondingPool.Rounding
import BondingPool.Text.Basic
import BondingPool.Text.Numeral
import BondingPool.Fixed
import BondingPool.Text.Quoted
import BondingPool.Text.Lower
import BondingPool.Calendar
import BondingPool.Binary64
import BondingPool.Value
import BondingPool.PriceLine.Basic
import BondingPool.PriceLine.Position
import BondingPool.Admission
import BondingPool.Fees
import BondingPool.Rejection
import BondingPool.PriceLine.Sizing
import BondingPool.Curve
import BondingPool.Bytes
import BondingPool.Json
import BondingPool.Encoding
import BondingPool.Pool
import BondingPool.File
import BondingPool.Yaml.Place
import BondingPool.Yaml.Plain
import BondingPool.Yaml.Quoted
import BondingPool.Yaml.Block
import BondingPool.Yaml.Property
import BondingPool.Yaml.Token
import BondingPool.Yaml.Tree
import BondingPool.Yaml.Kind
import BondingPool.Yaml.Scalar
import BondingPool.Yaml.Node
import BondingPool.Yaml.Document
import BondingPool.Config
import BondingPool.Quote.Options
import BondingPool.Quote.Order
import BondingPool.Quote.Session
import BondingPool.Main
import BondingPool.Proofs.Answer
import BondingPool.Proofs.Rounding
import BondingPool.Proofs.Fixed
import BondingPool.Proofs.Position
import BondingPool.Proofs.Cost
import BondingPool.Proofs.Sizing
import BondingPool.Proofs.Run
import BondingPool.Proofs.Solvency
import BondingPool.Proofs.Magnitude
import BondingPool.Proofs.Failure
import BondingPool.Proofs.Quotable
import BondingPool.Proofs.Spelling
import BondingPool.Proofs.Oversized
import BondingPool.Proofs.Splitting
import BondingPool.Proofs.Settlement
import BondingPool.Proofs.Precision
import BondingPool.Proofs.Comparison
import BondingPool.Proofs.Acceptance
import BondingPool.Proofs.Accuracy
import BondingPool.Proofs.Inverse
import BondingPool.Proofs.SpotPrice
import BondingPool.Proofs.Tracking
import BondingPool.Proofs.RoundTrip
import BondingPool.Proofs.Rendering
import BondingPool.Proofs.Identity
import BondingPool.Proofs.Canonical
import BondingPool.Proofs.KeyOrder
import BondingPool.Proofs.Loading
import BondingPool.Proofs.Packing
import BondingPool.Proofs.Trimming
import BondingPool.Proofs.Numeral
import BondingPool.Proofs.Script
import BondingPool.Proofs.Replay
import BondingPool.Proofs.Separation
import BondingPool.Proofs.Documents
import BondingPool.Proofs.Doors
import BondingPool.Proofs.Arithmetic
import BondingPool.Proofs.Decimal
