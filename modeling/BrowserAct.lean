import BrowserAct.Act.Classify
import BrowserAct.Channel.Loopback
import BrowserAct.Channel.Window
import BrowserAct.Cipher.Aes
import BrowserAct.Cipher.Gcm
import BrowserAct.Dispatch.Extension.Page
import BrowserAct.Dispatch.Extension.Prompt
import BrowserAct.Dispatch.Planned
import BrowserAct.Planner.Endpoint
import BrowserAct.Planner.Request
import BrowserAct.Program.Action
import BrowserAct.Program.Box
import BrowserAct.Program.Interpreter
import BrowserAct.Rehearsal.Dispatcher
import BrowserAct.Rehearsal.Peer
import BrowserAct.Rehearsal.Report
import BrowserAct.Session.Config.Reader
import BrowserAct.Session.Setup
import BrowserAct.Trace
import BrowserAct.Url.Address
import BrowserAct.Proofs.Channel.RoundTrip
import BrowserAct.Proofs.Channel.Stream
import BrowserAct.Proofs.Course.Observer
import BrowserAct.Proofs.Dispatch.Planned.Ending
import BrowserAct.Proofs.Act.Outcome
import BrowserAct.Proofs.Dispatch.Extension.Link
import BrowserAct.Proofs.Dispatch.Extension.Acceptance
import BrowserAct.Proofs.Dispatch.Extension.Leftovers
import BrowserAct.Proofs.Act.LifeCycle
import BrowserAct.Proofs.Program.Joined
import BrowserAct.Proofs.Dispatch.Extension.Calls
import BrowserAct.Proofs.Session.Requests
import BrowserAct.Proofs.Act.Transient
import BrowserAct.Proofs.Json.Numeral
import BrowserAct.Proofs.Program.Balanced
import BrowserAct.Proofs.Program.Written
import BrowserAct.Proofs.Dispatch.Planned.Report
import BrowserAct.Proofs.Json.Lexer
import BrowserAct.Proofs.Json.RoundTrip
import BrowserAct.Proofs.Planner.Request
import BrowserAct.Proofs.Dispatch.Planned.Redirects
import BrowserAct.Proofs.Act.About
import BrowserAct.Proofs.Channel.Failures
import BrowserAct.Proofs.Course.Deadline
import BrowserAct.Proofs.Dispatch.Extension.Bounded
import BrowserAct.Proofs.Dispatch.Extension.Posts
import BrowserAct.Proofs.Dispatch.Extension.Traffic
import BrowserAct.Proofs.Dispatch.Extension.Used
import BrowserAct.Proofs.Decimal.Rounding
import BrowserAct.Proofs.Decimal.Shortest
import BrowserAct.Proofs.Json.Float
import BrowserAct.Proofs.Json.Readable
import BrowserAct.Proofs.Planner.StatusFailures
import BrowserAct.Proofs.Json.Standard
import BrowserAct.Proofs.Text.Hexadecimal
import BrowserAct.Proofs.Channel.Handover
import BrowserAct.Proofs.Program.Returned
import BrowserAct.Proofs.Dispatch.Planned.Returned
import BrowserAct.Proofs.Session.Attempts
import BrowserAct.Proofs.Dispatch.Extension.Traced
import BrowserAct.Proofs.Act.Evidence
import BrowserAct.Proofs.Act.Resolution
import BrowserAct.Proofs.Channel.Exclusive
import BrowserAct.Proofs.Act.Payload
import BrowserAct.Proofs.Dispatch.Planned.Raised
import BrowserAct.Proofs.Program.Asked
import BrowserAct.Proofs.Program.Spelling
import BrowserAct.Proofs.Program.Turns
import BrowserAct.Proofs.Planner.Recorded
import BrowserAct.Proofs.Channel.Delivery
