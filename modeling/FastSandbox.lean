import FastSandbox.Action.Removal
import FastSandbox.Action.Terminal
import FastSandbox.ControlPlane.BuildPods
import FastSandbox.ControlPlane.Completion
import FastSandbox.ControlPlane.Intents
import FastSandbox.ControlPlane.Observations
import FastSandbox.ControlPlane.Resets
import FastSandbox.ControlPlane.Triggers
import FastSandbox.DataPlane.Publisher
import FastSandbox.DataPlane.Subscriptions
import FastSandbox.Fastlet.Infra
import FastSandbox.Fastlet.Observer
import FastSandbox.Fastlet.Protection
import FastSandbox.Fastlet.Routes
import FastSandbox.Fastlet.SnapshotFences
import FastSandbox.Fastlet.Teardown
import FastSandbox.Janitor.Decision
import FastSandbox.Lease.Consistency
import FastSandbox.Lease.Histories
import FastSandbox.Lease.Ownership
import FastSandbox.Network.Addresses
import FastSandbox.Network.Conflicts
import FastSandbox.Network.Release
import FastSandbox.Network.Teardown
import FastSandbox.Network.Tenancy
import FastSandbox.Placement.Fences
import FastSandbox.Placement.Reservations
import FastSandbox.Pool.Packing
import FastSandbox.Pool.Stabilization
import FastSandbox.Pool.Upgrades
import FastSandbox.Runtime.Absence
import FastSandbox.Runtime.Containerd
import FastSandbox.Runtime.Dump
import FastSandbox.Runtime.SandboxInit
import FastSandbox.Runtime.Sparse
import FastSandbox.Runtime.Squash
import FastSandbox.Runtime.Staging
