import PointBridge.Session
import PointBridge.Proofs.Distance
import PointBridge.Proofs.Arena.PointMap
import PointBridge.Proofs.Arena.History
import PointBridge.Proofs.Arena.Reuse
import PointBridge.Proofs.Arena.Clearing
import PointBridge.Proofs.Arena.Capacity
import PointBridge.Proofs.Arena.Refusal
import PointBridge.Proofs.Arena.Churn
import PointBridge.Proofs.Registry.Isolation
import PointBridge.Proofs.Trace.Routes
import PointBridge.Proofs.Session.Poison
import PointBridge.Proofs.Session.Natives
import PointBridge.Proofs.Session.Distance
import PointBridge.Proofs.Session.Buffers
import PointBridge.Proofs.Session.Throwing
import PointBridge.Proofs.Session.Escape
import PointBridge.Proofs.Session.Reports
import PointBridge.Proofs.Session.Threshold
import PointBridge.Proofs.Session.Independence
import PointBridge.Proofs.Session.Installation
import PointBridge.Proofs.Session.Audit
