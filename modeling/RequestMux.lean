import RequestMux.Field.Unpack
import RequestMux.Network.Operation
import RequestMux.Settings.Change
import RequestMux.Settings.Document
import RequestMux.Proofs.Client.Course
import RequestMux.Proofs.Client.Turns
import RequestMux.Proofs.Client.Ledger
import RequestMux.Proofs.Client.Accounts
import RequestMux.Proofs.Client.Passage
import RequestMux.Proofs.Network.Beats
import RequestMux.Proofs.Network.Schedule
import RequestMux.Proofs.Network.Wiring
import RequestMux.Proofs.Network.Wired
import RequestMux.Proofs.Link.Writing
import RequestMux.Proofs.Network.Freight
import RequestMux.Proofs.Network.Stock
import RequestMux.Proofs.Network.Transmission
import RequestMux.Proofs.Wire.Words
import RequestMux.Proofs.Wire.Splitting
import RequestMux.Proofs.Link.Reading
import RequestMux.Proofs.Client.Answers
import RequestMux.Proofs.Network.Reception
import RequestMux.Proofs.Network.Correlation
import RequestMux.Proofs.Client.Hearing
import RequestMux.Proofs.Client.Coherence
import RequestMux.Proofs.Client.Alarms
import RequestMux.Proofs.Client.Deadlines
import RequestMux.Proofs.Client.States
import RequestMux.Proofs.Network.Voice
import RequestMux.Proofs.Network.Enactment
import RequestMux.Proofs.Network.Standing
import RequestMux.Proofs.Text.Spelling
import RequestMux.Proofs.Field.Sizes
import RequestMux.Proofs.Field.Reading
import RequestMux.Proofs.Field.RoundTrip
import RequestMux.Proofs.Wire.Framing
import RequestMux.Proofs.Wire.Pushing
import RequestMux.Proofs.Link.Streaming
import RequestMux.Proofs.Network.Delivery
import RequestMux.Proofs.Network.Veil
import RequestMux.Proofs.Network.Cutting
import RequestMux.Proofs.Client.Reactions
import RequestMux.Proofs.Client.Dismissal
import RequestMux.Proofs.Client.Carriage
import RequestMux.Proofs.Client.Untracked
import RequestMux.Proofs.Network.Untracked
import RequestMux.Proofs.Network.Arising
import RequestMux.Proofs.Network.Lapse
import RequestMux.Proofs.Network.Lockstep
import RequestMux.Proofs.Network.Tracking
import RequestMux.Proofs.Wire.Feeding
import RequestMux.Proofs.Wire.Partition
import RequestMux.Proofs.Client.Parting
import RequestMux.Proofs.Client.Generations
import RequestMux.Proofs.Network.Stamps
import RequestMux.Proofs.Client.Closing
import RequestMux.Proofs.Network.Tidiness
import RequestMux.Proofs.Network.Stillness
import RequestMux.Proofs.Client.Ids
import RequestMux.Proofs.Network.Allotment
import RequestMux.Proofs.Network.Cadence
import RequestMux.Proofs.Network.Echo
import RequestMux.Proofs.Field.Digits
import RequestMux.Proofs.Field.Grammar
import RequestMux.Proofs.Field.Series
import RequestMux.Proofs.Field.Usage
import RequestMux.Proofs.Field.PrefixCode
import RequestMux.Proofs.Field.Repacking
import RequestMux.Proofs.Field.Atomicity
import RequestMux.Proofs.Field.Bounds
import RequestMux.Proofs.Client.Pairing
import RequestMux.Proofs.Client.Expiry
import RequestMux.Proofs.Link.Outcomes
import RequestMux.Proofs.Wire.Shortfall
import RequestMux.Proofs.Field.ShortSizes
import RequestMux.Proofs.Field.Assembly
import RequestMux.Proofs.Settings.Survival
import RequestMux.Proofs.Client.Patience
import RequestMux.Proofs.Client.Starting
import RequestMux.Proofs.Client.Silencing
import RequestMux.Proofs.Text.Validity
import RequestMux.Proofs.Field.Texts
import RequestMux.Proofs.Field.Rewinding
import RequestMux.Proofs.Wire.Dumping
import RequestMux.Proofs.Field.Straying
