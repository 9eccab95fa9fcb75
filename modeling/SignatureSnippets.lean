import SignatureSnippets.Http.Service
import SignatureSnippets.Main
import SignatureSnippets.Settings.Session
import SignatureSnippets.Proofs.Addressing
import SignatureSnippets.Proofs.Building
import SignatureSnippets.Proofs.Coherence
import SignatureSnippets.Proofs.Conservation
import SignatureSnippets.Proofs.Growth
import SignatureSnippets.Proofs.Compacting
import SignatureSnippets.Proofs.OneScan
import SignatureSnippets.Proofs.Faults
import SignatureSnippets.Proofs.Separators
import SignatureSnippets.Proofs.OpenLevels
import SignatureSnippets.Proofs.Lexing
import SignatureSnippets.Proofs.Reading
import SignatureSnippets.Proofs.Printing
import SignatureSnippets.Proofs.RoundTrip
import SignatureSnippets.Proofs.Cleaning
import SignatureSnippets.Proofs.Pairing
import SignatureSnippets.Proofs.CallbackNames
import SignatureSnippets.Proofs.Decoding
import SignatureSnippets.Proofs.ParameterLists
import SignatureSnippets.Proofs.Marks
import SignatureSnippets.Proofs.Occurrences
import SignatureSnippets.Proofs.TabStops
import SignatureSnippets.Proofs.Styles
import SignatureSnippets.Proofs.Policies
import SignatureSnippets.Proofs.CompletionText
import SignatureSnippets.Proofs.Blanks
import SignatureSnippets.Proofs.EffectiveSettings
import SignatureSnippets.Proofs.Sessions
import SignatureSnippets.Proofs.ErrorLines
import SignatureSnippets.Proofs.Refusals
import SignatureSnippets.Proofs.Records
import SignatureSnippets.Proofs.Transfer
import SignatureSnippets.Proofs.Requests
import SignatureSnippets.Proofs.Endpoints
import SignatureSnippets.Proofs.Cutting
import SignatureSnippets.Proofs.CleanNames
import SignatureSnippets.Proofs.CompletionFiles
