import VideoCapture.Capture.Scene
import VideoCapture.Capture.SharedDevice
import VideoCapture.Main
import VideoCapture.Selection.Menus
import VideoCapture.Simulation.StandIn
import VideoCapture.Kernel.NodeScan
import VideoCapture.Proofs.Capture.Moves
import VideoCapture.Proofs.Acts
import VideoCapture.Proofs.Capture.Conduct
import VideoCapture.Proofs.Capture.Pool
import VideoCapture.Proofs.Capture.Custody
import VideoCapture.Proofs.Capture.Delivery
import VideoCapture.Proofs.Capture.Ledger
import VideoCapture.Proofs.Capture.Lifecycle
import VideoCapture.Proofs.Capture.Turns
import VideoCapture.Proofs.Capture.StopRequests
import VideoCapture.Proofs.Capture.Teardown
import VideoCapture.Proofs.Selection.Enumeration
import VideoCapture.Proofs.Capture.Starts
import VideoCapture.Proofs.Capture.Decisions
import VideoCapture.Proofs.Capture.FailedStarts
import VideoCapture.Proofs.Likeness
import VideoCapture.Proofs.Capture.Restarts
import VideoCapture.Proofs.Capture.Hitches
import VideoCapture.Proofs.Selection.Entries
import VideoCapture.Proofs.Selection.OfferedValues
import VideoCapture.Proofs.Selection.FormatAgreement
import VideoCapture.Proofs.Json.Words
import VideoCapture.Proofs.Settings.Persistence
import VideoCapture.Proofs.Settings.Numbers
import VideoCapture.Proofs.Settings.Changes
import VideoCapture.Proofs.Settings.Passage
import VideoCapture.Proofs.Capture.Aftermath
import VideoCapture.Proofs.Kernel.OneBackend
import VideoCapture.Proofs.Pixel.Tiling
import VideoCapture.Proofs.Pixel.Views
import VideoCapture.Proofs.FrameTimes
import VideoCapture.Proofs.Capture.WholePools
import VideoCapture.Proofs.Selection.SteadyLists
import VideoCapture.Proofs.Text.Numerals
import VideoCapture.Proofs.CommandLine.Terms
import VideoCapture.Proofs.CommandLine.Layering
import VideoCapture.Proofs.Selection.Discovery
import VideoCapture.Proofs.Selection.MenuCalls
import VideoCapture.Proofs.Metrics.Drops
import VideoCapture.Proofs.Metrics.Reports
import VideoCapture.Proofs.Kernel.NaturalOrder
import VideoCapture.Proofs.Pixel.CodeTexts
import VideoCapture.Proofs.Log.Shows
