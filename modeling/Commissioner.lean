import Commissioner.Main
import Commissioner.Proofs.Udp.Conservation
import Commissioner.Proofs.Dataset
import Commissioner.Proofs.Render
import Commissioner.Proofs.Session.Batch
import Commissioner.Proofs.Session.Closing
import Commissioner.Proofs.Session.Answering
import Commissioner.Proofs.Wifi.Ambiguity
import Commissioner.Proofs.Wifi.Numbering
import Commissioner.Proofs.Client.Leaving
import Commissioner.Proofs.Client.Holdings
import Commissioner.Proofs.Session.Progress
import Commissioner.Proofs.Wifi.Failures
import Commissioner.Proofs.Command.Help
import Commissioner.Proofs.Console.Asking
