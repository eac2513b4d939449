import RequestMatching.Main
import RequestMatching.Expectation.Stamp
import RequestMatching.Proofs.Json.Satisfaction
import RequestMatching.Proofs.Pattern.Containment
import RequestMatching.Proofs.Regex.Recency
import RequestMatching.Proofs.Registry.Replay
import RequestMatching.Proofs.Request.Explanation
import RequestMatching.Proofs.Xsd.Exactness
import RequestMatching.Request.Message
import RequestMatching.Proofs.Regex.Appending
import RequestMatching.Proofs.Regex.Reading
import RequestMatching.Proofs.Regex.Splicing
import RequestMatching.Proofs.Regex.Places
import RequestMatching.Proofs.Regex.Whole
import RequestMatching.Proofs.Json.Writing
import RequestMatching.Proofs.Json.Records
import RequestMatching.Proofs.Json.Taking
import RequestMatching.Proofs.Pattern.Regrouping
import RequestMatching.Proofs.Body.Rewriting
import RequestMatching.Proofs.Request.Rewriting
import RequestMatching.Proofs.Store.Streams
import RequestMatching.Proofs.Request.Identity
import RequestMatching.Proofs.Expectation.Updates
import RequestMatching.Proofs.Json.Walk
import RequestMatching.Proofs.Json.Extension
import RequestMatching.Proofs.Json.Mirrored
import RequestMatching.Proofs.Json.Spelled
import RequestMatching.Proofs.Json.Reflexivity
import RequestMatching.Proofs.Xsd.Unordered
import RequestMatching.Proofs.Xsd.Lookups
import RequestMatching.Proofs.Xsd.Derivation
import RequestMatching.Proofs.Pattern.Absence
import RequestMatching.Proofs.Regex.Widening
import RequestMatching.Proofs.Xsd.Integers
import RequestMatching.Proofs.Regex.LowerReading
import RequestMatching.Proofs.Regex.LowerRuns
import RequestMatching.Proofs.Pattern.IgnoringCase
import RequestMatching.Proofs.Regex.PlainSources
import RequestMatching.Proofs.Text.Utf8
import RequestMatching.Proofs.Text.Splitting
import RequestMatching.Proofs.Request.FormEncoding
import RequestMatching.Proofs.Path.Route
import RequestMatching.Proofs.Xsd.Dates
import RequestMatching.Proofs.Number.Placement
import RequestMatching.Proofs.Xsd.Numerals
import RequestMatching.Proofs.Xsd.Bounds
import RequestMatching.Proofs.Assignment.Largest
import RequestMatching.Proofs.Xsd.Beginnings
